import DocPath.Proofs.Number.Literal

/-!
The texts of binary numbers. What is written is a run of digits, and a point before those of the
fraction if there are any. What is read starts with a digit behind its sign, as none of the words
for numbers that are not finite does; its digits are one numeral, whose point the exponent moves.
-/

namespace DocPath

open scoped NatPower

theorem numeral_append_zeros (ds : List Char) (k : Nat) :
    numeral (ds ++ List.replicate k '0') = numeral ds * 10 ^ k := by
  show Nat.ofDigitChars 10 _ 0 = Nat.ofDigitChars 10 _ 0 * 10 ^ k
  rw [Nat.ofDigitChars_append, Nat.ofDigitChars_replicate_zero, Nat.mul_comm]

theorem Digits.plain_parts (d : Digits) :
    ∃ ds fs : List Char, d.plain = ds ++ (if fs = [] then [] else '.' :: fs) ∧ ds.all isDigit ∧
      ds ≠ [] ∧ fs.all isDigit ∧ fs.length = (-d.exponent).toNat ∧
      numeral (ds ++ fs) = d.digits * 10 ^ d.exponent.toNat := by
  have own := all_isDigit_decimalDigits d.digits
  have full := decimalDigits_ne_nil d.digits
  have value := numeral_decimalDigits d.digits
  unfold Digits.plain
  dsimp only
  split
  · next whole =>
    have places : (-d.exponent).toNat = 0 := by omega
    split
    · next zero =>
      rw [zero] at own full value ⊢
      exact ⟨_, [], (List.append_nil _).symm, own, full, rfl, places.symm,
        by rw [List.append_nil, value, Nat.zero_mul]⟩
    · refine ⟨_, [], (List.append_nil _).symm, ?_, by simp [full], rfl, places.symm, ?_⟩
      · rw [List.all_append, own, all_isDigit_zeros]
        rfl
      · rw [List.append_nil, numeral_append_zeros, value]
  · next fraction =>
    have none : d.exponent.toNat = 0 := by omega
    generalize count : (-d.exponent).toNat = k
    generalize text : List.replicate (k + 1 - (decimalDigits d.digits).length) '0' ++
      decimalDigits d.digits = padded
    obtain ⟨before, some, behind, length, value⟩ := padded_parts _ _ text
    have point : 0 < k := by omega
    have places : padded.drop (padded.length - k) ≠ [] := by
      rw [← List.length_pos_iff, length]
      exact point
    refine ⟨_, _, by rw [if_neg places], before, some, behind, length, ?_⟩
    rw [List.take_append_drop, value, none, Nat.pow_zero, Nat.mul_one]

namespace Binary

variable {f : Format}

theorem toLower_digit {c : Char} (digit : isDigit c) : c.toLower = c := by
  have small : ¬('A'.val ≤ c.val ∧ c.val ≤ 'Z'.val) := by
    simp only [isDigit, Bool.and_eq_true, decide_eq_true_eq] at digit
    intro capital
    have low : 65 ≤ c.toNat := UInt32.le_iff_toNat_le.mp capital.1
    omega
  exact dif_neg small

theorem lowerAscii_ne {d : Char} (digit : isDigit d) (ds : List Char) (word : String) {c : Char}
    {cs : List Char} (start : word.toList = c :: cs) (letter : isDigit c = false) :
    String.ofList (lowerAscii (d :: ds)) ≠ word := by
  intro same
  rw [← same, String.toList_ofList, lowerAscii, List.map_cons, toLower_digit digit] at start
  exact digit_ne digit letter (List.cons.inj start).1

theorem read?_signed (negative : Bool) {d : Char} (digit : isDigit d) (ds : List Char) :
    (read? (String.ofList (if negative then '-' :: d :: ds else d :: ds)) : Option (Binary f)) =
      readUnsigned? negative (d :: ds) := by
  have inf := lowerAscii_ne digit ds "inf" rfl (by decide)
  have infinity := lowerAscii_ne digit ds "infinity" rfl (by decide)
  have nan := lowerAscii_ne digit ds "nan" rfl (by decide)
  have minus : d ≠ '-' := digit_ne digit (by decide)
  have plus : d ≠ '+' := digit_ne digit (by decide)
  unfold read?
  rw [String.toList_ofList]
  cases negative with
  | true =>
    simp only [if_true, inf, infinity, nan, decide_false, Bool.or_self, Bool.false_eq_true,
      if_false]
  | false =>
    simp only [Bool.false_eq_true, if_false]
    split
    · next same => exact absurd (List.cons.inj same).1 minus
    · next same => exact absurd (List.cons.inj same).1 plus
    · simp only [inf, infinity, nan, decide_false, Bool.or_self, Bool.false_eq_true, if_false]

theorem readUnsigned?_parts (negative : Bool) (rest : List Char) {ds fs : List Char}
    (all : ds.all isDigit) (some : ds ≠ []) (digits : fs.all isDigit)
    (other : ∀ c ∈ rest.head?, isDigit c = false ∧ c ≠ '.') :
    (readUnsigned? negative (ds ++ (if fs = [] then [] else '.' :: fs) ++ rest) :
        Option (Binary f)) =
      (readExponent? rest).map fun e =>
        ofDecimal negative (numeral (ds ++ fs)) (e - fs.length) := by
  have point : isDigit '.' = false := by decide
  have full : ds.isEmpty = false := by simpa using some
  rw [List.all_eq_true] at all digits
  have behind : rest.takeWhile isDigit = [] ∧ rest.dropWhile isDigit = rest := by
    cases rest with
    | nil => exact ⟨rfl, rfl⟩
    | cons c rest =>
      have stop := (other c rfl).1
      rw [List.takeWhile_cons, List.dropWhile_cons, stop]
      exact ⟨rfl, rfl⟩
  unfold readUnsigned?
  rw [List.append_assoc, List.takeWhile_append_of_pos all, List.dropWhile_append_of_pos all]
  by_cases whole : fs = []
  · subst whole
    simp only [if_true, List.nil_append, behind, List.append_nil, full, Bool.false_and,
      Bool.false_eq_true, if_false, List.length_nil]
    split
    · next r => exact absurd rfl (other '.' rfl).2
    · simp only [List.append_nil, List.length_nil]
  · simp only [if_neg whole, List.cons_append, List.takeWhile_cons, List.dropWhile_cons, point,
      Bool.false_eq_true, if_false, List.append_nil, List.takeWhile_append_of_pos digits,
      List.dropWhile_append_of_pos digits, behind, full, Bool.false_and]

def written (x : Binary f) : Digits := if x.magnitude = 0 then ⟨0, 0⟩ else x.shortest .up

theorem toText_finite {x : Binary f} (finite : x.isFinite) :
    x.toText =
      String.ofList (if x.negative then '-' :: x.written.plain else x.written.plain) := by
  have number : x.isNaN = false := by
    simp only [isFinite, isNaN, decide_eq_true_eq, decide_eq_false_iff_not] at finite ⊢
    omega
  have bounded : x.isInfinite = false := by
    simp only [isFinite, isInfinite, decide_eq_true_eq, decide_eq_false_iff_not] at finite ⊢
    omega
  have zero : (⟨0, 0⟩ : Digits).plain = ['0'] := by decide
  simp only [toText, number, bounded, Bool.false_eq_true, if_false, written]
  by_cases none : x.magnitude = 0
  · rw [if_pos none, if_pos none, zero]
    cases x.negative <;> rfl
  · rw [if_neg none, if_neg none]
    cases x.negative with
    | false => exact String.empty_append
    | true => exact String.ofList_append.symm

theorem read?_toText {g : Format} {x : Binary g} (finite : x.isFinite) :
    (read? x.toText : Option (Binary f)) =
      some (ofDecimal x.negative (x.written.digits * 10 ^ x.written.exponent.toNat)
        (-((-x.written.exponent).toNat : Int))) := by
  obtain ⟨ds, fs, plain, all, full, digits, places, value⟩ := x.written.plain_parts
  obtain ⟨d, ds, rfl, first⟩ := digits_cons all full
  have parts := readUnsigned?_parts (f := f) x.negative [] all full digits nofun
  rw [List.append_nil, ← plain, value, places] at parts
  rw [toText_finite finite, plain, List.cons_append, read?_signed _ first, ← List.cons_append,
    ← plain, parts, readExponent?, Option.map_some, Int.zero_sub]

end Binary

end DocPath
