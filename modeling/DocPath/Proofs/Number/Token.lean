import DocPath.Proofs.Number.Literal

/-!
Whole numbers as documents write them, and the representation that each is read in: the narrowest
word that holds it, a decimal of scale zero, or beyond the range of decimals its text.
-/

namespace DocPath

open scoped NatPower

theorem digitValue_lt {c : Char} (h : isDigit c) : digitValue c < 10 := by
  simp only [isDigit, Bool.and_eq_true, decide_eq_true_eq] at h
  unfold digitValue
  omega

theorem digitValue_pos {d : Char} (digit : isDigit d) (some : d ≠ '0') : 0 < digitValue d := by
  have other : d.toNat ≠ 48 := fun same => some (Char.toNat_inj.mp same)
  simp only [isDigit, Bool.and_eq_true, decide_eq_true_eq] at digit
  unfold digitValue
  omega

theorem decimalDigits_digit {c : Char} (h : isDigit c) : decimalDigits (digitValue c) = [c] := by
  have small := digitValue_lt h
  rw [decimalDigits, Nat.toDigits_of_lt_base small]
  congr 1
  apply Char.toNat_inj.mp
  rw [Nat.toNat_digitChar_of_lt_ten small]
  simp only [isDigit, Bool.and_eq_true, decide_eq_true_eq] at h
  unfold digitValue
  omega

theorem decimalDigits_append {n : Nat} (positive : 0 < n) {ds : List Char} (all : ds.all isDigit) :
    decimalDigits n ++ ds = decimalDigits (numeralFrom n ds) := by
  induction ds generalizing n with
  | nil => exact List.append_nil _
  | cons d ds ih =>
    rw [List.all_cons, Bool.and_eq_true] at all
    have small := digitValue_lt all.1
    have step : decimalDigits n ++ [d] = decimalDigits (10 * n + digitValue d) := by
      rw [← decimalDigits_digit all.1]
      exact Nat.toDigits_append_toDigits (by decide) positive small
    calc decimalDigits n ++ d :: ds = (decimalDigits n ++ [d]) ++ ds := by simp
      _ = decimalDigits (10 * n + digitValue d) ++ ds := by rw [step]
      _ = decimalDigits (numeralFrom (10 * n + digitValue d) ds) := ih (by omega) all.2

structure IntegerToken where
  negative : Bool
  digits : List Char
  all_digits : digits.all isDigit
  digits_ne_nil : digits ≠ []
  /-- No zero stands in front of other digits. -/
  leading : digits.head? = some '0' → digits = ['0']

namespace IntegerToken

def magnitude (t : IntegerToken) : Nat := numeral t.digits

def value (t : IntegerToken) : Int := if t.negative then -(t.magnitude : Int) else t.magnitude

def chars (t : IntegerToken) : List Char := if t.negative then '-' :: t.digits else t.digits

def text (t : IntegerToken) : String := String.ofList t.chars

def isNegativeZero (t : IntegerToken) : Bool := t.negative && t.magnitude == 0

variable (t : IntegerToken)

@[simp] theorem toList_text : t.text.toList = t.chars := String.toList_ofList

theorem digits_cons : ∃ d ds, t.digits = d :: ds ∧ isDigit d :=
  DocPath.digits_cons t.all_digits t.digits_ne_nil

theorem natAbs_value : t.value.natAbs = t.magnitude := by
  unfold value
  split <;> omega

variable {t} in
theorem negative_eq (unsigned : t.isNegativeZero = false) :
    t.negative = decide (t.value < 0) := by
  unfold isNegativeZero at unsigned
  unfold value
  cases negative : t.negative with
  | false => simp
  | true =>
    rw [negative, Bool.true_and, beq_eq_false_iff_ne] at unsigned
    simp only [if_true]
    exact (decide_eq_true (by omega)).symm

variable {t} in
theorem isNegativeZero_of_pos (positive : 0 < t.magnitude) : t.isNegativeZero = false := by
  rw [isNegativeZero, beq_false_of_ne (Nat.pos_iff_ne_zero.mp positive), Bool.and_false]

theorem digits_eq : t.digits = decimalDigits t.magnitude := by
  obtain ⟨negative, digits, all, full, leading⟩ := t
  cases digits with
  | nil => exact absurd rfl full
  | cons d ds =>
    rw [List.all_cons, Bool.and_eq_true] at all
    by_cases zero : d = '0'
    · subst zero
      obtain ⟨-, rfl⟩ := List.cons.inj (leading rfl)
      exact (decimalDigits_digit (c := '0') (by decide)).symm
    · have whole := decimalDigits_append (digitValue_pos all.1 zero) all.2
      rw [decimalDigits_digit all.1] at whole
      have start : 10 * 0 + digitValue d = digitValue d := by omega
      show d :: ds = decimalDigits (numeralFrom (10 * 0 + digitValue d) ds)
      rw [start, ← whole, List.singleton_append]

theorem mem_chars {c : Char} (mem : c ∈ t.chars) : c = '-' ∨ isDigit c := by
  have digits := List.all_eq_true.mp t.all_digits
  unfold chars at mem
  split at mem
  · exact (List.mem_cons.mp mem).imp id (digits c)
  · exact .inr (digits c mem)

theorem readInteger?_chars : readInteger? t.chars = some t.value := by
  unfold chars value
  split
  · have full : t.digits.isEmpty = false := by simpa using t.digits_ne_nil
    simp only [readInteger?, full, t.all_digits, Bool.not_true, Bool.or_false, Bool.false_eq_true,
      if_false, if_true]
    rfl
  · exact readInteger?_digits t.all_digits t.digits_ne_nil

theorem readInteger?_text : readInteger? t.text.toList = some t.value := by
  rw [toList_text, readInteger?_chars]

theorem hasFractionMark_text : Number.hasFractionMark t.text = false :=
  Number.hasFractionMark_of_readInteger? t.readInteger?_text

theorem readWord?_chars (bits : Nat) :
    readWord? bits t.chars =
      if -(2 ^ (bits - 1) : Nat) ≤ t.value ∧ t.value < (2 ^ (bits - 1) : Nat) then some t.value
      else none := by
  rw [readWord?, readInteger?_chars, Option.filter_some]
  simp only [Bool.and_eq_true, decide_eq_true_eq]

end IntegerToken

namespace Decimal

theorem Reading.read?_beyond (negative : Bool) {ds : List Char} (r : Reading) (rest : List Char)
    (all : ds.all isDigit) (whole : r.pointSeen = false) (start : r.coefficient < limit)
    (beyond : limit ≤ numeralFrom r.coefficient ds) : r.read? negative (ds ++ rest) = none := by
  induction ds generalizing r with
  | nil => exact absurd beyond (Nat.not_le.mpr start)
  | cons d ds ih =>
    rw [List.all_cons, Bool.and_eq_true] at all
    rw [List.cons_append, Reading.read?]
    simp only [whole, Bool.false_and, Bool.false_eq_true, if_false, all.1, if_true]
    split
    · next small => exact ih _ all.2 rfl small beyond
    · rfl

theorem readPlain?_token (t : IntegerToken) (rest : List Char) :
    readPlain? (t.chars ++ rest) =
      Reading.read? t.negative ⟨0, 0, false, false⟩ (t.digits ++ rest) := by
  unfold IntegerToken.chars
  split
  · next negative =>
    rw [negative]
    rfl
  · next positive =>
    rw [readPlain?_digits t.all_digits t.digits_ne_nil, Bool.eq_false_iff.mpr positive]

theorem read?_token (t : IntegerToken) :
    read? t.text =
      if t.magnitude < limit then ofUnsignedZero? t.negative t.magnitude 0 else none := by
  have unmarked : ∀ c ∈ t.chars, isExponentMark c = false := by
    intro c mem
    rcases t.mem_chars mem with rfl | digit
    · decide
    · exact isExponentMark_of_isDigit digit
  have plain := readPlain?_token t []
  rw [List.append_nil] at plain
  rw [IntegerToken.text, read?_plain unmarked, plain]
  split
  · next inside =>
    have run := Reading.read?_digits t.negative ⟨0, 0, false, false⟩ [] t.all_digits inside
      (by simp) (by simp)
    have full : t.digits.isEmpty = false := by simpa using t.digits_ne_nil
    rw [run, Reading.read?]
    simp only [full, Bool.not_false, Bool.or_true, if_true, Bool.false_eq_true, if_false]
    rfl
  · next outside =>
    exact Reading.read?_beyond _ _ _ t.all_digits rfl (by decide) (Nat.not_lt.mp outside)

end Decimal

namespace Number

def integer? : Number → Option Int
  | .int n => some n.toInt
  | .long n => some n.toInt
  | .bigInteger d => if d.scale = 0 then some d.signed else none
  | .exact t => readInteger? t.toList
  | _ => none

theorem isIntegral_of_integer? {n : Number} {z : Int} (whole : n.integer? = some z) :
    n.isIntegral := by
  cases n with
  | int | long | bigInteger => rfl
  | exact t =>
    rw [isIntegral, hasFractionMark_of_readInteger? whole]
    rfl
  | float | double | bigDecimal => cases whole

end Number

namespace IntegerToken

variable {t : IntegerToken}

/-- How a whole number of a document is represented. -/
inductive Represents (t : IntegerToken) : Number → Prop
  | int {n : Int32} (value : n.toInt = t.value) : Represents t (.int n)
  | long {n : Int64} (value : n.toInt = t.value) : Represents t (.long n)
  | bigInteger {d : Decimal} (sign : d.negative = decide (t.value < 0))
      (coefficient : d.coefficient = t.magnitude) (scale : d.scale = 0) :
      Represents t (.bigInteger d)
  | exact (beyond : Decimal.limit ≤ t.magnitude) : Represents t (.exact t.text)

theorem signed_eq {d : Decimal} (sign : d.negative = decide (t.value < 0))
    (coefficient : d.coefficient = t.magnitude) : d.signed = t.value := by
  rw [Decimal.signed, sign, coefficient, ← t.natAbs_value]
  simp only [decide_eq_true_eq]
  split <;> omega

theorem Represents.integer? {n : Number} (form : t.Represents n) : n.integer? = some t.value := by
  cases form with
  | int value => rw [Number.integer?, value]
  | long value => rw [Number.integer?, value]
  | bigInteger sign coefficient scale =>
    rw [Number.integer?, if_pos scale, signed_eq sign coefficient]
  | exact => exact t.readInteger?_text

theorem Represents.isIntegral {n : Number} (form : t.Represents n) : n.isIntegral :=
  Number.isIntegral_of_integer? form.integer?

theorem represents_decimal (inside : t.magnitude < Decimal.limit) :
    ∃ d, Decimal.read? t.text = some d ∧ d.scale = 0 ∧ t.Represents (.bigInteger d) := by
  have bounds : t.magnitude < 2 ^ (96 : Nat) ∧ 0 ≤ 28 := ⟨inside, by decide⟩
  have sign : (t.negative && t.magnitude != 0) = decide (t.value < 0) := by
    unfold value
    cases t.negative with
    | false => simp
    | true =>
      rw [Bool.eq_iff_iff]
      simp
  have read := Decimal.read?_token t
  rw [if_pos inside, Decimal.ofUnsignedZero?, Decimal.ofParts?, dif_pos bounds] at read
  exact ⟨_, read, rfl, .bigInteger sign rfl rfl⟩

theorem read?_none (beyond : Decimal.limit ≤ t.magnitude) : Decimal.read? t.text = none := by
  rw [Decimal.read?_token, if_neg (Nat.not_lt.mpr beyond)]

theorem represents_integer :
    t.Represents ((Number.ofIntegerText? t.text).getD (.exact t.text)) := by
  rw [Number.ofIntegerText?, toList_text, readWord?_chars, readWord?_chars]
  by_cases narrow : -(2 ^ (32 - 1) : Nat) ≤ t.value ∧ t.value < (2 ^ (32 - 1) : Nat)
  · rw [if_pos narrow]
    exact .int (Int32.toInt_ofInt_of_le (by omega) (by omega))
  · rw [if_neg narrow]
    by_cases wide : -(2 ^ (64 - 1) : Nat) ≤ t.value ∧ t.value < (2 ^ (64 - 1) : Nat)
    · rw [if_pos wide]
      exact .long (Int64.toInt_ofInt_of_le (by omega) (by omega))
    · rw [if_neg wide]
      by_cases inside : t.magnitude < Decimal.limit
      · obtain ⟨d, read, scale, form⟩ := represents_decimal inside
        simp only [read, Option.filter_some, scale, beq_self_eq_true, if_true, Option.map_some,
          Option.getD_some]
        exact form
      · simp only [read?_none (Nat.not_lt.mp inside), Option.filter_none, Option.map_none,
          Option.getD_none]
        exact .exact (Nat.not_lt.mp inside)

theorem represents_ofDocument (policy : NumberPolicy) (t : IntegerToken) :
    t.Represents (.ofDocument policy t.text) := by
  unfold Number.ofDocument Number.ofDocumentText?
  rw [hasFractionMark_text, if_neg Bool.false_ne_true]
  by_cases wide : policy = .bigInteger
  · rw [if_pos wide]
    by_cases inside : t.magnitude < Decimal.limit
    · obtain ⟨d, read, -, form⟩ := represents_decimal inside
      rw [read]
      exact form
    · rw [read?_none (Nat.not_lt.mp inside)]
      exact .exact (Nat.not_lt.mp inside)
  · rw [if_neg wide]
    exact represents_integer

end IntegerToken

end DocPath
