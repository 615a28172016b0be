import DocPath.Number.Arithmetic
import DocPath.Proofs.Number.Digits

/-!
Texts of integers of any length. The signs order them, or else what is left of the digits behind
the zeros in front: these are strings without a zero in front, whose order is that of the numbers.
Only two texts of zero can have different signs and one number.
-/

namespace DocPath

open scoped NatPower

section Zeros

variable {ds : List Char}

theorem isSignificant_dropWhile (all : ds.all isDigit) :
    IsSignificant (ds.dropWhile (· = '0')) where
  all := by
    have digits := List.all_eq_true.mp all
    exact List.all_eq_true.mpr fun c mem => digits c ((List.dropWhile_suffix _).subset mem)
  head zero := by
    have first := List.head?_dropWhile_not (· = '0') ds
    rw [zero] at first
    simp at first

theorem numeral_dropWhile (ds : List Char) : numeral (ds.dropWhile (· = '0')) = numeral ds := by
  induction ds with
  | nil => rfl
  | cons d ds ih =>
    by_cases zero : d = '0'
    · have none : digitValue '0' = 0 := rfl
      rw [List.dropWhile_cons_of_pos (by simpa using zero), ih, numeral_cons, zero, none,
        Nat.zero_mul, Nat.zero_add]
    · rw [List.dropWhile_cons_of_neg (by simpa using zero)]

end Zeros

/-- An integer as a text: digits, with any zeros in front, behind an optional sign. -/
structure SignedDigits where
  sign : List Char
  digits : List Char
  signs : sign = [] ∨ sign = ['+'] ∨ sign = ['-']
  all_digits : digits.all isDigit
  digits_ne_nil : digits ≠ []

namespace SignedDigits

def value (t : SignedDigits) : Int :=
  if t.sign = ['-'] then -(numeral t.digits : Int) else numeral t.digits

def text (t : SignedDigits) : String := String.ofList (t.sign ++ t.digits)

variable (t : SignedDigits)

theorem head_text : (t.text.toList.head? == some '-') = decide (t.sign = ['-']) := by
  obtain ⟨d, ds, digits, first⟩ := digits_cons t.all_digits t.digits_ne_nil
  have minus : d ≠ '-' := digit_ne first (by decide)
  rw [text, String.toList_ofList, digits]
  rcases t.signs with sign | sign | sign <;> simp [sign, minus]

theorem significantDigits_text :
    Number.significantDigits t.text = t.digits.dropWhile (· = '0') := by
  obtain ⟨d, ds, digits, first⟩ := digits_cons t.all_digits t.digits_ne_nil
  have minus : d ≠ '-' := digit_ne first (by decide)
  have plus : d ≠ '+' := digit_ne first (by decide)
  rw [Number.significantDigits, text, String.toList_ofList, digits]
  rcases t.signs with sign | sign | sign <;> simp [sign, minus, plus]

variable {a b : SignedDigits}

theorem compareIntegerText_eq (some : a.value ≠ 0 ∨ b.value ≠ 0) :
    Number.compareIntegerText a.text b.text = compare a.value b.value := by
  have magnitudes := compareDigits_eq (isSignificant_dropWhile a.all_digits)
    (isSignificant_dropWhile b.all_digits)
  rw [numeral_dropWhile, numeral_dropWhile] at magnitudes
  unfold value at some ⊢
  rw [Number.compareIntegerText, head_text, head_text, significantDigits_text,
    significantDigits_text, magnitudes, Nat.compare_eq_ite_lt, Int.compare_eq_ite_lt]
  -- Two signs decide unless they agree; then the magnitudes do, the other way around below zero.
  by_cases minus : a.sign = ['-'] <;> by_cases minus' : b.sign = ['-'] <;>
    simp only [minus, minus', decide_true, decide_false, Bool.false_eq_true, if_true, if_false]
      at some ⊢
  all_goals repeat' split
  all_goals first | rfl | omega

end SignedDigits

/-- The order of two texts, not both of zero, is the order of the integers that they denote, and
they are taken for equal exactly if the integers are the same. -/
theorem integer_texts_compare (a b : SignedDigits) (some : a.value ≠ 0 ∨ b.value ≠ 0) :
    Number.compareIntegerText a.text b.text = compare a.value b.value ∧
      (Number.compareIntegerText a.text b.text = .eq ↔ a.value = b.value) := by
  have order := SignedDigits.compareIntegerText_eq some
  rw [order]
  exact ⟨rfl, Int.compare_eq_eq⟩

/-- Below zero the longer of two texts is the smaller number, if it is not longer by zeros. -/
theorem integer_texts_compare_negative :
    Number.compareIntegerText "-0099999999999999999999" "-100000000000000000000" = .gt := by
  let a : SignedDigits :=
    ⟨['-'], "0099999999999999999999".toList, by decide, by decide, by decide⟩
  let b : SignedDigits :=
    ⟨['-'], "100000000000000000000".toList, by decide, by decide, by decide⟩
  have large : a.value = -99999999999999999999 := by decide
  have small : b.value = -100000000000000000000 := by decide
  have order := (integer_texts_compare a b (.inl (by rw [large]; decide))).1
  rw [large, small] at order
  exact order

end DocPath
