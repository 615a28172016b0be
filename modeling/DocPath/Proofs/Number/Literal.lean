import DocPath.Number.Basic
import Mathlib.Data.List.TakeWhile

/-!
Numbers and the digits they are written with. A number that is written without sign and exponent
is read back from its own text.
-/

namespace DocPath

open scoped NatPower

theorem numeral_decimalDigits (n : Nat) : numeral (decimalDigits n) = n :=
  Nat.ofDigitChars_ten_toDigits

theorem decimalDigits_ne_nil (n : Nat) : decimalDigits n ≠ [] := Nat.toDigits_ne_nil

theorem isDigit_of_charIsDigit {c : Char} (h : c.isDigit) : isDigit c := by
  simp only [Char.isDigit, Bool.and_eq_true, decide_eq_true_eq, ge_iff_le,
    UInt32.le_iff_toNat_le] at h
  simp only [isDigit, Bool.and_eq_true, decide_eq_true_eq]
  exact h

theorem all_isDigit_decimalDigits (n : Nat) : (decimalDigits n).all isDigit := by
  rw [List.all_eq_true]
  intro c mem
  exact isDigit_of_charIsDigit (Nat.isDigit_of_mem_toDigits (by decide) (by decide) mem)

theorem all_isDigit_zeros (k : Nat) : (List.replicate k '0').all isDigit := by
  rw [List.all_eq_true]
  intro c mem
  rw [List.eq_of_mem_replicate mem]
  decide

theorem numeral_zeros (k : Nat) (ds : List Char) :
    numeral (List.replicate k '0' ++ ds) = numeral ds := by
  show Nat.ofDigitChars 10 _ 0 = Nat.ofDigitChars 10 _ 0
  rw [Nat.ofDigitChars_append, Nat.ofDigitChars_replicate_zero, Nat.mul_zero]

/-- Digits with so many zeros in front that some are left before the last `k` of them. -/
theorem padded_parts (n k : Nat) {padded : List Char}
    (text : List.replicate (k + 1 - (decimalDigits n).length) '0' ++ decimalDigits n = padded) :
    (padded.take (padded.length - k)).all isDigit ∧ padded.take (padded.length - k) ≠ [] ∧
      (padded.drop (padded.length - k)).all isDigit ∧
      (padded.drop (padded.length - k)).length = k ∧ numeral padded = n := by
  have long : k + 1 ≤ padded.length := by
    rw [← text, List.length_append, List.length_replicate]
    omega
  have all : ∀ c ∈ padded, isDigit c := by
    rw [← List.all_eq_true, ← text, List.all_append, all_isDigit_decimalDigits, all_isDigit_zeros]
    rfl
  have before : (padded.take (padded.length - k)).length = padded.length - k := by
    rw [List.length_take, Nat.min_eq_left (Nat.sub_le _ _)]
  refine ⟨List.all_eq_true.mpr fun c mem => all c (List.mem_of_mem_take mem), ?_,
    List.all_eq_true.mpr fun c mem => all c (List.mem_of_mem_drop mem), ?_, ?_⟩
  · rw [← List.length_pos_iff, before]
    omega
  · rw [List.length_drop]
    omega
  · rw [← text, numeral_zeros, numeral_decimalDigits]

theorem digit_ne {c d : Char} (h : isDigit c) (other : isDigit d = false) : c ≠ d := by
  intro same
  rw [same, other] at h
  cases h

theorem digits_cons {ds : List Char} (all : ds.all isDigit) (some : ds ≠ []) :
    ∃ d rest, ds = d :: rest ∧ isDigit d := by
  obtain ⟨d, rest, rfl⟩ := List.exists_cons_of_ne_nil some
  exact ⟨d, rest, rfl, List.all_eq_true.mp all d List.mem_cons_self⟩

theorem readInteger?_digits {ds : List Char} (all : ds.all isDigit) (some : ds ≠ []) :
    readInteger? ds = Option.some (numeral ds : Int) := by
  obtain ⟨d, rest, rfl, first⟩ := digits_cons all some
  have minus : d ≠ '-' := digit_ne first (by decide)
  have plus : d ≠ '+' := digit_ne first (by decide)
  simp [readInteger?, minus, plus, all]

def unsigned : List Char → Bool × List Char
  | '-' :: ds => (true, ds)
  | '+' :: ds => (false, ds)
  | ds => (false, ds)

theorem mem_unsigned {c : Char} {cs : List Char} (mem : c ∈ cs) :
    c = '-' ∨ c = '+' ∨ c ∈ (unsigned cs).2 := by
  unfold unsigned
  split
  · exact (List.mem_cons.mp mem).imp_right .inr
  · exact .inr (List.mem_cons.mp mem)
  · exact .inr (.inr mem)

theorem readInteger?_some {cs : List Char} {z : Int} (reads : readInteger? cs = some z) :
    (unsigned cs).2.all isDigit ∧
      z = if (unsigned cs).1 then -(numeral (unsigned cs).2 : Int)
        else numeral (unsigned cs).2 := by
  have parts : readInteger? cs =
      if (unsigned cs).2.isEmpty || !(unsigned cs).2.all isDigit then none
      else some (if (unsigned cs).1 then -(numeral (unsigned cs).2 : Int)
        else numeral (unsigned cs).2) := rfl
  rw [parts] at reads
  split at reads
  · cases reads
  · next digits =>
    rw [Bool.or_eq_true, not_or, Bool.not_eq_true', Bool.not_eq_false] at digits
    exact ⟨digits.2, (Option.some.inj reads).symm⟩

theorem Number.hasFractionMark_of_readInteger? {t : String} {z : Int}
    (reads : readInteger? t.toList = some z) : hasFractionMark t = false := by
  rw [hasFractionMark, List.any_eq_false]
  intro c mem
  rcases mem_unsigned mem with rfl | rfl | digit
  · decide
  · decide
  · have digit := List.all_eq_true.mp (readInteger?_some reads).1 c digit
    simp [digit_ne digit (d := '.') (by decide), digit_ne digit (d := 'e') (by decide),
      digit_ne digit (d := 'E') (by decide)]

theorem readInteger?_integerChars (n : Int) : readInteger? (integerChars n) = some n := by
  unfold integerChars
  split
  · next negative =>
    have full : (decimalDigits n.natAbs).isEmpty = false := by
      simpa using decimalDigits_ne_nil n.natAbs
    have value : -(n.natAbs : Int) = n := by omega
    simp only [readInteger?, full, all_isDigit_decimalDigits, Bool.not_true, Bool.or_false,
      Bool.false_eq_true, if_false, if_true, numeral_decimalDigits, value]
  · rw [readInteger?_digits (all_isDigit_decimalDigits _) (decimalDigits_ne_nil _),
      numeral_decimalDigits]
    congr 1
    omega

def numeralFrom (n : Nat) (ds : List Char) : Nat :=
  ds.foldl (fun n c => 10 * n + digitValue c) n

theorem numeralFrom_zero (ds : List Char) : numeralFrom 0 ds = numeral ds := rfl

theorem le_numeralFrom (n : Nat) (ds : List Char) : n ≤ numeralFrom n ds := by
  induction ds generalizing n with
  | nil => exact Nat.le_refl n
  | cons d ds ih =>
    have step := ih (10 * n + digitValue d)
    show n ≤ numeralFrom (10 * n + digitValue d) ds
    omega

theorem numeralFrom_append (n : Nat) (ds es : List Char) :
    numeralFrom n (ds ++ es) = numeralFrom (numeralFrom n ds) es := by
  simp only [numeralFrom, List.foldl_append]

namespace Decimal

theorem ofUnsignedZero?_eq {d : Decimal} (sign : d.negative = false) :
    ofUnsignedZero? false d.coefficient d.scale = some d := by
  obtain ⟨negative, coefficient, scale, bound, places⟩ := d
  simp only at sign
  simp [ofUnsignedZero?, ofParts?, bound, places, sign]

theorem Reading.read?_digits (negative : Bool) {ds : List Char} (r : Reading) (rest : List Char)
    (all : ds.all isDigit) (bound : numeralFrom r.coefficient ds < limit)
    (whole : r.pointSeen = false → r.scale = 0)
    (places : r.pointSeen = true → r.scale + ds.length ≤ maxScale) :
    r.read? negative (ds ++ rest) =
      Reading.read? negative ⟨numeralFrom r.coefficient ds,
        if r.pointSeen then r.scale + ds.length else 0, r.pointSeen,
        r.digitSeen || !ds.isEmpty⟩ rest := by
  induction ds generalizing r with
  | nil =>
    obtain ⟨coefficient, scale, pointSeen, digitSeen⟩ := r
    cases pointSeen with
    | false =>
      have zero : scale = 0 := whole rfl
      simp [numeralFrom, zero]
    | true => simp [numeralFrom]
  | cons d ds ih =>
    obtain ⟨coefficient, scale, pointSeen, digitSeen⟩ := r
    simp only [List.all_cons, Bool.and_eq_true] at all
    have small : 10 * coefficient + digitValue d < limit :=
      Nat.lt_of_le_of_lt (le_numeralFrom _ ds) bound
    have room : (pointSeen && decide (maxScale ≤ scale)) = false := by
      cases pointSeen with
      | false => rfl
      | true =>
        have fits := places rfl
        simp only [List.length_cons] at fits
        simp only [Bool.true_and, decide_eq_false_iff_not]
        omega
    rw [List.cons_append, Reading.read?]
    simp only [room, all.1, small, if_true, Bool.false_eq_true, if_false]
    cases pointSeen with
    | false =>
      simp only [Bool.false_eq_true, if_false]
      rw [ih _ all.2 bound (fun _ => rfl) (fun seen => by cases seen)]
      simp [numeralFrom]
    | true =>
      have fits : scale + (ds.length + 1) ≤ maxScale := places rfl
      simp only [if_true]
      rw [ih _ all.2 bound (fun seen => by cases seen) (fun _ => by simp only; omega)]
      simp [numeralFrom, Nat.add_assoc, Nat.add_comm 1]

theorem readPlain?_digits {ds : List Char} (all : ds.all isDigit) (some : ds ≠ [])
    (rest : List Char) :
    readPlain? (ds ++ rest) = Reading.read? false ⟨0, 0, false, false⟩ (ds ++ rest) := by
  obtain ⟨d, ds, rfl, first⟩ := digits_cons all some
  have minus : d ≠ '-' := digit_ne first (by decide)
  have plus : d ≠ '+' := digit_ne first (by decide)
  simp [readPlain?, minus, plus]

theorem readPlain?_whole {ds : List Char} (all : ds.all isDigit) (some : ds ≠ [])
    (bound : numeral ds < limit) : readPlain? ds = ofUnsignedZero? false (numeral ds) 0 := by
  have run := readPlain?_digits all some []
  rw [Reading.read?_digits false ⟨0, 0, false, false⟩ [] all bound (by simp) (by simp)] at run
  have full : ds.isEmpty = false := by simpa using some
  simpa [Reading.read?, full, numeralFrom_zero] using run

theorem readPlain?_fraction {ds fs : List Char} (all : ds.all isDigit) (some : ds ≠ [])
    (digits : fs.all isDigit) (bound : numeral (ds ++ fs) < limit)
    (places : fs.length ≤ maxScale) :
    readPlain? (ds ++ '.' :: fs) = ofUnsignedZero? false (numeral (ds ++ fs)) fs.length := by
  have total : numeral (ds ++ fs) = numeralFrom (numeral ds) fs := numeralFrom_append 0 ds fs
  have part : numeral ds < limit := by
    rw [total] at bound
    exact Nat.lt_of_le_of_lt (le_numeralFrom _ fs) bound
  have full : ds.isEmpty = false := by simpa using some
  have point : isDigit '.' = false := by decide
  rw [readPlain?_digits all some,
    Reading.read?_digits false ⟨0, 0, false, false⟩ ('.' :: fs) all part (by simp) (by simp),
    Reading.read?]
  simp only [Bool.false_and, Bool.false_eq_true, if_false, point, Bool.not_false, Bool.and_true,
    decide_true, if_true]
  have run := Reading.read?_digits false ⟨numeral ds, 0, true, true⟩ [] digits
    (by rw [← total]; exact bound) (by simp) (by simpa using places)
  simp only [List.append_nil, if_true, Bool.true_or, Nat.zero_add] at run
  simp only [full, Bool.not_false, Bool.or_true, numeralFrom_zero]
  rw [run, Reading.read?, total]
  rfl

theorem read?_plain {cs : List Char} (none : ∀ c ∈ cs, isExponentMark c = false) :
    read? (String.ofList cs) = readPlain? cs := by
  have whole : cs.takeWhile (!isExponentMark ·) = cs := by
    rw [List.takeWhile_eq_self_iff]
    intro c mem
    simp [none c mem]
  have rest : cs.dropWhile (!isExponentMark ·) = [] := by
    rw [List.dropWhile_eq_nil_iff]
    intro c mem
    simp [none c mem]
  simp only [read?, String.toList_ofList, rest, whole]

theorem isExponentMark_of_isDigit {c : Char} (h : isDigit c) : isExponentMark c = false := by
  have small : c ≠ 'e' := digit_ne h (by decide)
  have large : c ≠ 'E' := digit_ne h (by decide)
  simp [isExponentMark, small, large]

theorem read?_fraction {ds fs : List Char} (all : ds.all isDigit) (some : ds ≠ [])
    (digits : fs.all isDigit) (bound : numeral (ds ++ fs) < limit)
    (places : fs.length ≤ maxScale) :
    read? (String.ofList (ds ++ '.' :: fs)) =
      ofUnsignedZero? false (numeral (ds ++ fs)) fs.length := by
  have unmarked : ∀ c ∈ ds ++ '.' :: fs, isExponentMark c = false := by
    intro c mem
    simp only [List.mem_append, List.mem_cons] at mem
    rcases mem with digit | rfl | digit
    · exact isExponentMark_of_isDigit (List.all_eq_true.mp all c digit)
    · decide
    · exact isExponentMark_of_isDigit (List.all_eq_true.mp digits c digit)
  rw [read?_plain unmarked, readPlain?_fraction all some digits bound places]

theorem toText_fraction {d : Decimal} (sign : d.negative = false) (places : 0 < d.scale) :
    ∃ ds fs : List Char, d.toText.toList = ds ++ '.' :: fs ∧ ds.all isDigit ∧ ds ≠ [] ∧
      fs.all isDigit ∧ fs ≠ [] ∧ read? d.toText = some d := by
  generalize digits : List.replicate (d.scale + 1 - (decimalDigits d.coefficient).length) '0' ++
    decimalDigits d.coefficient = padded
  obtain ⟨whole, wholeFull, fraction, count, value⟩ := padded_parts _ _ digits
  generalize before : padded.take (padded.length - d.scale) = ds at whole wholeFull
  generalize behind : padded.drop (padded.length - d.scale) = fs at fraction count
  have text : d.toText = String.ofList (ds ++ '.' :: fs) := by
    have some : d.scale ≠ 0 := by omega
    simp only [toText, sign, some, if_false, Bool.false_eq_true, digits, before, behind]
    exact String.empty_append
  have joined : numeral (ds ++ fs) = d.coefficient := by
    rw [← before, ← behind, List.take_append_drop, value]
  have fractionFull : fs ≠ [] := by
    rw [← List.length_pos_iff, count]
    exact places
  refine ⟨ds, fs, by rw [text, String.toList_ofList], whole, wholeFull, fraction, fractionFull, ?_⟩
  rw [text, read?_fraction whole wholeFull fraction (by rw [joined]; exact d.coefficient_lt)
    (by rw [count]; exact d.scale_le), joined, count, ofUnsignedZero?_eq sign]

theorem toText_whole {d : Decimal} (sign : d.negative = false) (places : d.scale = 0) :
    d.toText.toList = decimalDigits d.coefficient ∧ read? d.toText = some d := by
  have text : d.toText = String.ofList (decimalDigits d.coefficient) := by
    simp only [toText, sign, places, if_true, Bool.false_eq_true, if_false]
    exact String.empty_append
  refine ⟨by rw [text, String.toList_ofList], ?_⟩
  have digits := all_isDigit_decimalDigits d.coefficient
  rw [text, read?_plain fun c mem => isExponentMark_of_isDigit (List.all_eq_true.mp digits c mem),
    readPlain?_whole digits (decimalDigits_ne_nil _)
      (by rw [numeral_decimalDigits]; exact d.coefficient_lt), numeral_decimalDigits, ← places,
    ofUnsignedZero?_eq sign]

end Decimal

namespace Number

def isWhole : Number → Bool
  | .int _ | .long _ | .bigInteger _ => true
  | _ => false

/-- Numbers that literals denote: without sign, whole numbers in their narrowest form. -/
def isLiteral : Number → Bool
  | .int n => 0 ≤ n.toInt
  | .long n => 2 ^ (31 : Nat) ≤ n.toInt
  | .bigInteger d => !d.negative && d.scale == 0 && 2 ^ (63 : Nat) ≤ d.coefficient
  | .bigDecimal d => !d.negative
  | .double _ => true
  | _ => false

/-- Literals whose text shows their form: a decimal its point, a double would need an exponent. -/
def isLegible : Number → Bool
  | .double _ => false
  | .bigDecimal d => 0 < d.scale
  | _ => true

theorem readWord?_digits (bits : Nat) {ds : List Char} (all : ds.all isDigit) (some : ds ≠ []) :
    readWord? bits ds =
      if numeral ds < 2 ^ (bits - 1) then Option.some (numeral ds : Int) else none := by
  have low : -((2 ^ (bits - 1) : Nat) : Int) ≤ numeral ds :=
    Int.le_trans (Int.neg_nonpos_of_nonneg (Int.natCast_nonneg _)) (Int.natCast_nonneg _)
  rw [readWord?, readInteger?_digits all some]
  by_cases small : numeral ds < 2 ^ (bits - 1)
  · have fits : (numeral ds : Int) < (2 ^ (bits - 1) : Nat) := by omega
    simp only [Option.filter, low, fits, small, decide_true, Bool.and_self, if_true]
  · have large : ¬ (numeral ds : Int) < (2 ^ (bits - 1) : Nat) := by omega
    simp only [Option.filter, large, small, decide_false, Bool.and_false, Bool.false_eq_true,
      if_false]

theorem readWord?_decimalDigits (bits n : Nat) :
    readWord? bits (decimalDigits n) =
      if n < 2 ^ (bits - 1) then some (n : Int) else none := by
  rw [readWord?_digits bits (all_isDigit_decimalDigits n) (decimalDigits_ne_nil n),
    numeral_decimalDigits]

theorem integerChars_of_nonneg {n : Int} (h : 0 ≤ n) :
    integerChars n = decimalDigits n.natAbs := by
  rw [integerChars, if_neg (by omega)]

theorem toText_of_isWhole {n : Number} (literal : n.isLiteral) (whole : n.isWhole) :
    n.toText.toList.all isDigit ∧ n.toText.toList ≠ [] ∧ ofIntegerText? n.toText = some n := by
  cases n with
  | int i =>
    have sign : 0 ≤ i.toInt := by simpa [isLiteral] using literal
    have above := i.toInt_lt
    have chars : (toText (.int i)).toList = decimalDigits i.toInt.natAbs := by
      rw [toText, integerText, String.toList_ofList, integerChars_of_nonneg sign]
    rw [chars]
    refine ⟨all_isDigit_decimalDigits _, decimalDigits_ne_nil _, ?_⟩
    have value : (i.toInt.natAbs : Int) = i.toInt := by omega
    rw [ofIntegerText?, chars, readWord?_decimalDigits, if_pos (by omega), value]
    simp only [Int32.ofInt_toInt]
  | long i =>
    have sign : 2 ^ (31 : Nat) ≤ i.toInt := by simpa [isLiteral] using literal
    have above := i.toInt_lt
    have chars : (toText (.long i)).toList = decimalDigits i.toInt.natAbs := by
      rw [toText, integerText, String.toList_ofList, integerChars_of_nonneg (by omega)]
    rw [chars]
    refine ⟨all_isDigit_decimalDigits _, decimalDigits_ne_nil _, ?_⟩
    have value : (i.toInt.natAbs : Int) = i.toInt := by omega
    rw [ofIntegerText?, chars, readWord?_decimalDigits, if_neg (by omega), readWord?_decimalDigits,
      if_pos (by omega), value]
    simp only [Int64.ofInt_toInt]
  | bigInteger d =>
    simp only [isLiteral, Bool.and_eq_true, Bool.not_eq_true', beq_iff_eq, decide_eq_true_eq]
      at literal
    obtain ⟨chars, read⟩ := Decimal.toText_whole literal.1.1 literal.1.2
    have large := literal.2
    have same : toText (.bigInteger d) = d.toText := rfl
    rw [same, chars]
    refine ⟨all_isDigit_decimalDigits _, decimalDigits_ne_nil _, ?_⟩
    rw [ofIntegerText?, chars, readWord?_decimalDigits, if_neg (by omega), readWord?_decimalDigits,
      if_neg (by omega), read]
    simp [Option.filter, literal.1.2]
  | float x => cases whole
  | double x => cases whole
  | bigDecimal d => cases whole
  | exact t => cases whole

theorem toText_start {n : Number} (literal : n.isLiteral) (legible : n.isLegible) :
    ∃ d ds, n.toText.toList = d :: ds ∧ isDigit d := by
  cases kind : n.isWhole with
  | true =>
    obtain ⟨digits, full, -⟩ := toText_of_isWhole literal kind
    cases text : n.toText.toList with
    | nil => exact absurd text full
    | cons d ds =>
      rw [text, List.all_cons, Bool.and_eq_true] at digits
      exact ⟨d, ds, rfl, digits.1⟩
  | false =>
    cases n with
    | bigDecimal d =>
      simp only [isLiteral, Bool.not_eq_true'] at literal
      simp only [isLegible, decide_eq_true_eq] at legible
      obtain ⟨ds, fs, text, digits, full, -⟩ := Decimal.toText_fraction literal legible
      cases ds with
      | nil => exact absurd rfl full
      | cons c cs =>
        rw [List.all_cons, Bool.and_eq_true] at digits
        exact ⟨c, cs ++ '.' :: fs, text, digits.1⟩
    | double x => cases legible
    | float x => cases literal
    | exact t => cases literal
    | int n => cases kind
    | long n => cases kind
    | bigInteger d => cases kind

end Number

end DocPath
