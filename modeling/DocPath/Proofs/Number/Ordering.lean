import DocPath.Proofs.Number.BinaryText
import DocPath.Proofs.Number.Rounding
import DocPath.Proofs.Number.SignedDigits

/-!
The order of whole numbers of documents. Two decimals are ordered as the numbers, and so are two
texts. Where one number is a decimal and the other a text the doubles are ordered, and these are
one double for numbers next to the limit of decimals: such a pair is taken for equal numbers.
-/

namespace DocPath

open scoped NatPower

namespace IntegerToken

variable {t : IntegerToken}

theorem isSignificant_digits (positive : 0 < t.magnitude) : IsSignificant t.digits where
  all := t.all_digits
  head zero := by
    rw [magnitude, t.leading zero] at positive
    exact Nat.lt_irrefl 0 positive

end IntegerToken

namespace Binary

theorem ofDecimal_token {t : IntegerToken} (positive : 0 < t.magnitude) :
    (ofDecimal t.negative t.magnitude 0 : Binary64) = .ofInt t.value := by
  have significant := IntegerToken.isSignificant_digits positive
  have zero : t.magnitude ≠ 0 := Nat.pos_iff_ne_zero.mp positive
  have sign := IntegerToken.negative_eq (IntegerToken.isNegativeZero_of_pos positive)
  rw [ofInt, ofRatio, ← sign, t.natAbs_value, ofDecimal, if_neg zero, ← t.digits_eq]
  split
  · next long =>
    obtain ⟨d, ds, digits, -⟩ := t.digits_cons
    rw [digits] at long significant
    have many : 1024 ≤ ds.length := by
      simp only [List.length_cons, Format.double] at long
      omega
    have huge : 2 ^ ds.length ≤ t.magnitude := by
      calc 2 ^ ds.length ≤ 10 ^ ds.length := Nat.pow_le_pow_left (by decide) _
        _ ≤ numeral (d :: ds) := significant.le_numeral
        _ = t.magnitude := by rw [IntegerToken.magnitude, digits]
    rw [infinity, encode_top many huge]
  · rw [if_neg (by omega)]
    simp [ofRatio]

theorem read?_token {f : Format} (t : IntegerToken) :
    (read? t.text : Option (Binary f)) = some (ofDecimal t.negative t.magnitude 0) := by
  obtain ⟨d, ds, digits, first⟩ := t.digits_cons
  have parts := readUnsigned?_parts (f := f) t.negative [] t.all_digits t.digits_ne_nil
    (List.all_nil : [].all isDigit) nofun
  rw [if_pos rfl, List.append_nil, List.append_nil, digits] at parts
  rw [IntegerToken.text, IntegerToken.chars, digits, read?_signed _ first, parts,
    IntegerToken.magnitude, digits]
  rfl

end Binary

namespace IntegerToken.Represents

variable {t : IntegerToken} {n : Number}

theorem toBinary64 (form : t.Represents n) : n.toBinary64 = .ofInt t.value := by
  cases form with
  | int value => rw [Number.toBinary64, value]
  | long value => rw [Number.toBinary64, value]
  | bigInteger sign coefficient scale =>
    rw [Number.toBinary64, Decimal.toBinary64]
    simp only [scale, if_true, signed_eq sign coefficient]
  | exact beyond =>
    have positive : 0 < t.magnitude := Nat.lt_of_lt_of_le (by decide) beyond
    rw [Number.toBinary64, Binary.read?_token, Option.getD_some, Binary.ofDecimal_token positive]

theorem isBinary (form : t.Represents n) : n.isBinary = false := by
  cases form <;> rfl

theorem toDecimal? (form : t.Represents n) (inside : t.magnitude < Decimal.limit) :
    ∃ d, n.toDecimal? = some d ∧ d.scale = 0 ∧ d.signed = t.value := by
  cases form with
  | @int m value =>
    refine ⟨_, rfl, rfl, signed_eq ?_ ?_⟩
    · simp only [Decimal.ofInt64, Int32.toInt_toInt64, value]
    · simp only [Decimal.ofInt64, Int32.toInt_toInt64, value, t.natAbs_value]
  | @long m value =>
    refine ⟨_, rfl, rfl, signed_eq ?_ ?_⟩
    · simp only [Decimal.ofInt64, value]
    · simp only [Decimal.ofInt64, value, t.natAbs_value]
  | bigInteger sign coefficient scale => exact ⟨_, rfl, scale, signed_eq sign coefficient⟩
  | exact beyond => exact absurd inside (Nat.not_lt.mpr beyond)

theorem eq_exact (form : t.Represents n) (beyond : Decimal.limit ≤ t.magnitude) :
    n = .exact t.text := by
  have size := t.natAbs_value
  have limit : Decimal.limit = 2 ^ 96 := rfl
  cases form with
  | @int m value =>
    have low := m.le_toInt
    have high := m.toInt_lt
    omega
  | @long m value =>
    have low := m.le_toInt
    have high := m.toInt_lt
    omega
  | @bigInteger d sign coefficient scale =>
    have bound := d.coefficient_lt
    omega
  | exact => rfl

end IntegerToken.Represents

namespace IntegerToken

def signedDigits (t : IntegerToken) : SignedDigits where
  sign := if t.negative then ['-'] else []
  digits := t.digits
  signs := by cases t.negative <;> decide
  all_digits := t.all_digits
  digits_ne_nil := t.digits_ne_nil

variable (t : IntegerToken)

theorem text_signedDigits : t.signedDigits.text = t.text := by
  simp only [SignedDigits.text, signedDigits, text, chars]
  cases t.negative <;> rfl

theorem value_signedDigits : t.signedDigits.value = t.value := by
  cases minus : t.negative <;>
    simp [SignedDigits.value, signedDigits, value, magnitude, minus]

theorem compareIntegerText_eq {a b : IntegerToken} (some : a.value ≠ 0) :
    Number.compareIntegerText a.text b.text = compare a.value b.value := by
  rw [← value_signedDigits] at some
  rw [← text_signedDigits, ← text_signedDigits, SignedDigits.compareIntegerText_eq (.inl some),
    value_signedDigits, value_signedDigits]

end IntegerToken

theorem Binary.totalCompare_swap {f : Binary.Format} (x y : Binary f) :
    (x.totalCompare y).swap = y.totalCompare x := Int.compare_swap _ _

theorem Decimal.compare_swap (a b : Decimal) : (a.compare b).swap = b.compare a :=
  Int.compare_swap _ _

namespace Number

theorem compareDigits_swap (a b : List Char) : (compareDigits a b).swap = compareDigits b a := by
  have chars : (compareOfLessAndEq a b).swap = compareOfLessAndEq b a := by
    refine (compareOfLessAndEq_eq_swap_of_lt_iff_not_gt_and_ne fun x y => ?_).symm
    constructor
    · intro less
      exact ⟨List.lt_asymm less, fun same => List.lt_irrefl y (same ▸ less)⟩
    · rintro ⟨no, differ⟩
      exact (List.le_iff_lt_or_eq.mp (List.not_lt.mp no)).resolve_right differ
  rw [compareDigits, Ordering.swap_then, Nat.compare_swap, chars, compareDigits]

theorem compareIntegerText_swap (a b : String) :
    (compareIntegerText a b).swap = compareIntegerText b a := by
  unfold compareIntegerText
  have digits := compareDigits_swap (significantDigits a) (significantDigits b)
  cases a.toList.head? == some '-' <;> cases b.toList.head? == some '-'
  · exact digits
  · rfl
  · rfl
  · exact congrArg Ordering.swap digits

theorem compareByValue_swap (a b : Number) :
    (a.compareByValue b).swap = b.compareByValue a := by
  unfold compareByValue
  rw [Bool.or_comm b.isBinary]
  split
  · exact Binary.totalCompare_swap _ _
  · cases a.toDecimal? <;> cases b.toDecimal?
    · exact Binary.totalCompare_swap _ _
    · exact Binary.totalCompare_swap _ _
    · exact Binary.totalCompare_swap _ _
    · exact Decimal.compare_swap _ _

theorem compare_swap (a b : Number) : (a.compare b).swap = b.compare a := by
  unfold Number.compare
  split
  · next s t =>
    rw [Bool.and_comm (isIntegral (.exact t))]
    split
    · exact compareIntegerText_swap s t
    · exact compareByValue_swap _ _
  · next other =>
    split
    · next s t => exact absurd rfl (other t s rfl)
    · exact compareByValue_swap a b

theorem numEq_comm (a b : Number) : a.numEq b = b.numEq a := by
  rw [numEq, numEq, ← compare_swap]
  cases b.compare a <;> rfl

end Number

/-- A number in the range of decimals and one out of it that have one double: both are next to the
limit on one side of zero. -/
def blurs (inside beyond : Int) : Bool :=
  decide (2 ^ 96 - 2 ^ 42 ≤ inside.natAbs ∧ inside.natAbs < 2 ^ 96 ∧ 2 ^ 96 ≤ beyond.natAbs ∧
    beyond.natAbs ≤ 2 ^ 96 + 2 ^ 43 ∧ (inside < 0 ↔ beyond < 0))

theorem totalCompare_ofInt {x y : Int} (inside : x.natAbs < 2 ^ 96) (beyond : 2 ^ 96 ≤ y.natAbs) :
    (Binary.ofInt x : Binary64).totalCompare (.ofInt y) =
      if blurs x y then .eq else compare x y := by
  obtain ⟨most, same⟩ := Binary.encode_below inside
  obtain ⟨least, same'⟩ := Binary.encode_beyond beyond
  simp only [Binary.totalCompare, Binary.orderKey, Binary.ofInt, Binary.ofRatio, blurs,
    decide_eq_true_eq, Int.compare_eq_ite_lt]
  -- All that counts of the two doubles is on which side of the limit's double they are.
  generalize Binary.Format.double.encode x.natAbs 1 = m at most same ⊢
  generalize Binary.Format.double.encode y.natAbs 1 = n at least same' ⊢
  repeat' split
  all_goals first | rfl | omega

/-- Two numbers that have one double although only one of them has a decimal. -/
def blurred (x y : Int) : Bool := blurs x y || blurs y x

theorem ne_of_blurred {x y : Int} (blur : blurred x y) : x ≠ y := by
  simp only [blurred, blurs, Bool.or_eq_true, decide_eq_true_eq] at blur
  omega

theorem compare_eq_byValue {m n : Number} (decimal : m.toDecimal? ≠ none ∨ n.toDecimal? ≠ none) :
    m.compare n = m.compareByValue n := by
  cases m <;> cases n <;> first | rfl | exact absurd decimal (by simp [Number.toDecimal?])

namespace IntegerToken.Represents

variable {a b : IntegerToken} {m n : Number}

theorem compare_inside (form : a.Represents m) (form' : b.Represents n)
    (inside : a.magnitude < Decimal.limit) (inside' : b.magnitude < Decimal.limit) :
    m.compare n = compare a.value b.value := by
  obtain ⟨x, decimal, scale, signed⟩ := form.toDecimal? inside
  obtain ⟨y, decimal', scale', signed'⟩ := form'.toDecimal? inside'
  rw [compare_eq_byValue (.inl (by simp [decimal])), Number.compareByValue, form.isBinary,
    form'.isBinary, decimal, decimal']
  simp only [Bool.or_self, Bool.false_eq_true, if_false, Decimal.compare, scale, scale', signed,
    signed', Int.pow_zero, Int.mul_one]

theorem compare_beyond (form : a.Represents m) (form' : b.Represents n)
    (beyond : Decimal.limit ≤ a.magnitude) (beyond' : Decimal.limit ≤ b.magnitude) :
    m.compare n = compare a.value b.value := by
  have size := a.natAbs_value
  have positive : 0 < Decimal.limit := by decide
  have whole := form.isIntegral
  have whole' := form'.isIntegral
  obtain rfl := form.eq_exact beyond
  obtain rfl := form'.eq_exact beyond'
  simp only [Number.compare, whole, whole', Bool.and_self, if_true]
  exact IntegerToken.compareIntegerText_eq (by omega)

theorem compare_mixed (form : a.Represents m) (form' : b.Represents n)
    (mixed : a.magnitude < Decimal.limit ∧ Decimal.limit ≤ b.magnitude ∨
      Decimal.limit ≤ a.magnitude ∧ b.magnitude < Decimal.limit) :
    m.compare n = (Binary.ofInt a.value : Binary64).totalCompare (.ofInt b.value) := by
  rw [← form.toBinary64, ← form'.toBinary64]
  rcases mixed with ⟨inside, beyond⟩ | ⟨beyond, inside⟩
  · obtain ⟨x, decimal, -⟩ := form.toDecimal? inside
    obtain rfl := form'.eq_exact beyond
    rw [compare_eq_byValue (.inl (by simp [decimal])), Number.compareByValue, form.isBinary,
      decimal]
    rfl
  · obtain ⟨y, decimal, -⟩ := form'.toDecimal? inside
    obtain rfl := form.eq_exact beyond
    rw [compare_eq_byValue (.inr (by simp [decimal])), Number.compareByValue, form'.isBinary,
      decimal]
    rfl

theorem compare_eq (form : a.Represents m) (form' : b.Represents n) :
    m.compare n = if blurred a.value b.value then .eq else compare a.value b.value := by
  have size := a.natAbs_value
  have size' := b.natAbs_value
  have limit : Decimal.limit = 2 ^ 96 := rfl
  -- A pair is compared as doubles only if the limit is between its numbers.
  rcases Nat.lt_or_ge a.magnitude Decimal.limit with inside | beyond <;>
    rcases Nat.lt_or_ge b.magnitude Decimal.limit with inside' | beyond'
  · have sharp : blurred a.value b.value = false := by simp [blurred, blurs]; omega
    rw [form.compare_inside form' inside inside', sharp]
    rfl
  · have one : blurs b.value a.value = false := by simp [blurs]; omega
    rw [form.compare_mixed form' (.inl ⟨inside, beyond'⟩),
      totalCompare_ofInt (by omega) (by omega), blurred, one, Bool.or_false]
  · have one : blurs a.value b.value = false := by simp [blurs]; omega
    have turned := totalCompare_ofInt (x := b.value) (y := a.value) (by omega) (by omega)
    rw [form.compare_mixed form' (.inr ⟨beyond, inside'⟩), ← Binary.totalCompare_swap, turned,
      ← Int.compare_swap b.value, blurred, one, Bool.false_or]
    split <;> rfl
  · have sharp : blurred a.value b.value = false := by simp [blurred, blurs]; omega
    rw [form.compare_beyond form' beyond beyond', sharp]
    rfl

end IntegerToken.Represents

/-- Whole numbers of documents are ordered as integers but for the pairs next to the limit of
decimals of which one is a decimal and the other a text: these are different numbers with one
double, and they are taken for equal. -/
theorem whole_numbers_compare (policy : NumberPolicy) (a b : IntegerToken) :
    (Number.ofDocument policy a.text).compare (.ofDocument policy b.text) =
        (if blurred a.value b.value then .eq else compare a.value b.value) ∧
      (Number.ofDocument policy a.text).numEq (.ofDocument policy b.text) =
        (decide (a.value = b.value) || blurred a.value b.value) ∧
      (blurred a.value b.value → a.value ≠ b.value) := by
  have order := (a.represents_ofDocument policy).compare_eq (b.represents_ofDocument policy)
  refine ⟨order, ?_, ne_of_blurred⟩
  rw [Number.numEq, order]
  cases blurred a.value b.value with
  | true => rw [if_pos rfl, beq_self_eq_true, Bool.or_true]
  | false =>
    rw [if_neg Bool.false_ne_true, Bool.or_false, Bool.eq_iff_iff, beq_iff_eq, decide_eq_true_eq]
    exact Int.compare_eq_eq

/-- The last number with a decimal and the next one. -/
theorem whole_numbers_compare_limit :
    blurred 79228162514264337593543950335 79228162514264337593543950336 ∧
      (Number.ofDocument .floatAndDouble "79228162514264337593543950335").compare
        (.ofDocument .floatAndDouble "79228162514264337593543950336") = .eq ∧
      (79228162514264337593543950335 : Int) ≠ 79228162514264337593543950336 := by
  let a : IntegerToken :=
    ⟨false, "79228162514264337593543950335".toList, by decide, by decide, by decide⟩
  let b : IntegerToken :=
    ⟨false, "79228162514264337593543950336".toList, by decide, by decide, by decide⟩
  have last : a.value = 79228162514264337593543950335 := by decide
  have next : b.value = 79228162514264337593543950336 := by decide
  have blur : blurred a.value b.value := by
    rw [last, next]
    decide
  obtain ⟨order, -, differ⟩ := whole_numbers_compare .floatAndDouble a b
  rw [if_pos blur] at order
  rw [last, next] at blur differ
  exact ⟨blur, order, differ blur⟩

end DocPath
