import DocPath.Proofs.Number.Fraction
import DocPath.Proofs.Number.Shortest

/-!
The numbers that representations stand for. A word and a decimal stand for themselves, a binary
number that is finite for its significand times a power of two, and a text for the number that
documents write with it. Whatever is read from a document stands for a number, or is infinite.
-/

namespace DocPath

namespace Exponent

theorem mark_eq (e : Exponent) : e.mark = 'e' ∨ e.mark = 'E' := by
  have marks := e.marks
  simpa only [Decimal.isExponentMark, Bool.or_eq_true, decide_eq_true_eq] using marks

theorem mark_other (e : Exponent) : isDigit e.mark = false ∧ e.mark ≠ '.' := by
  rcases e.mark_eq with mark | mark <;> rw [mark] <;> decide

theorem readExponent?_chars (e : Exponent) : Binary.readExponent? e.chars = some e.value := by
  have full : e.digits.isEmpty = false := by simpa using e.digits_ne_nil
  have all := e.all_digits
  have mark : (decide (e.mark = 'e') || decide (e.mark = 'E')) = true := e.marks
  unfold chars value Binary.readExponent?
  simp only [mark, if_true]
  rcases e.signs with sign | sign | sign
  · obtain ⟨d, ds, digits, first⟩ := digits_cons e.all_digits e.digits_ne_nil
    have minus : d ≠ '-' := digit_ne first (by decide)
    have plus : d ≠ '+' := digit_ne first (by decide)
    rw [digits] at all ⊢
    simp [sign, minus, plus, all]
  · simp [sign, full, all]
  · simp [sign, full, all]

end Exponent

inductive NumberToken where
  | whole (t : IntegerToken)
  | fraction (t : FractionToken)

namespace NumberToken

def text : NumberToken → String
  | .whole t => t.text
  | .fraction t => t.text

def negative : NumberToken → Bool
  | .whole t => t.negative
  | .fraction t => t.whole.negative

def value : NumberToken → Rat
  | .whole t => t.value
  | .fraction t => t.value

def significand : NumberToken → Nat
  | .whole t => t.magnitude
  | .fraction t => numeral (t.whole.digits ++ t.fraction)

def power : NumberToken → Int
  | .whole _ => 0
  | .fraction t => t.power - t.fraction.length

variable (t : NumberToken)

theorem value_eq : t.value = withSign t.negative (t.significand * (10 : Rat) ^ t.power) := by
  cases t with
  | whole t =>
    simp only [value, negative, significand, power, IntegerToken.value, withSign, zpow_zero,
      mul_one]
    split <;> simp
  | fraction t => rfl

theorem head_text : (t.text.toList.head? == some '-') = t.negative := by
  have front (t : IntegerToken) (rest : List Char) :
      ((t.chars ++ rest).head? == some '-') = t.negative := by
    obtain ⟨d, ds, digits, first⟩ := t.digits_cons
    have minus : d ≠ '-' := digit_ne first (by decide)
    rw [IntegerToken.chars, digits]
    cases t.negative <;> simp [minus]
  cases t with
  | whole t =>
    rw [text, IntegerToken.toList_text, ← List.append_nil t.chars, front, negative]
  | fraction t =>
    rw [text, FractionToken.text, String.toList_ofList, FractionToken.chars, FractionToken.base,
      List.append_assoc, front, negative]

theorem read?_text {f : Binary.Format} :
    (Binary.read? t.text : Option (Binary f)) =
      some (.ofDecimal t.negative t.significand t.power) := by
  cases t with
  | whole t => exact Binary.read?_token t
  | fraction t =>
    obtain ⟨d, ds, digits, first⟩ := t.whole.digits_cons
    let rest := (t.exponent.map Exponent.chars).getD []
    let point := if t.fraction = [] then [] else '.' :: t.fraction
    have exponent : Binary.readExponent? rest = some t.power := by
      unfold rest FractionToken.power
      cases t.exponent with
      | none => rfl
      | some e => exact e.readExponent?_chars
    have other : ∀ c ∈ rest.head?, isDigit c = false ∧ c ≠ '.' := by
      unfold rest
      cases t.exponent with
      | none => nofun
      | some e =>
        rintro c ⟨⟩
        exact e.mark_other
    have chars : t.chars = if t.whole.negative then '-' :: (t.whole.digits ++ point ++ rest)
        else t.whole.digits ++ point ++ rest := by
      rw [FractionToken.chars, FractionToken.base, IntegerToken.chars]
      cases t.whole.negative <;> rfl
    have parts := Binary.readUnsigned?_parts (f := f) t.whole.negative rest t.whole.all_digits
      t.whole.digits_ne_nil t.all_fraction other
    rw [exponent] at parts
    rw [text, FractionToken.text, chars, digits, List.cons_append, List.cons_append,
      Binary.read?_signed _ first, ← List.cons_append, ← List.cons_append, ← digits, parts]
    rfl

end NumberToken

namespace Binary

variable {f : Format}

def toRat (x : Binary f) : Rat := withSign x.negative (x.significand * (2 : Rat) ^ x.exponent)

theorem toRat_eq_zero_iff (x : Binary f) : x.toRat = 0 ↔ x.magnitude = 0 := by
  have two : (2 : Rat) ^ x.exponent ≠ 0 := (zpow_pos (by decide) _).ne'
  rw [toRat, withSign_eq_zero, mul_eq_zero, or_iff_left two, Nat.cast_eq_zero]
  constructor
  · intro none
    by_contra some
    exact (significand_pos some).ne' none
  · intro none
    have unit := Nat.two_pow_pos f.fractionBits
    rw [significand, none, if_pos unit]

theorem ofDecimal_magnitude_le (negative : Bool) (n : Nat) (e : Int) :
    (ofDecimal negative n e : Binary f).magnitude ≤ f.top := by
  unfold ofDecimal
  dsimp only
  repeat' split
  · exact Nat.zero_le _
  · exact Nat.le_refl _
  · exact Nat.zero_le _
  · exact encode_le_top _ _

theorem ofDecimal_finite_or (negative : Bool) (n : Nat) (e : Int) :
    (ofDecimal negative n e : Binary f).isFinite ∨
      (ofDecimal negative n e : Binary f) = infinity negative := by
  have sign := ofDecimal_negative (f := f) negative n e
  have most := ofDecimal_magnitude_le (f := f) negative n e
  generalize (ofDecimal negative n e : Binary f) = x at sign most
  obtain ⟨negative, magnitude⟩ := x
  obtain rfl := sign
  rcases Nat.lt_or_eq_of_le most with below | same
  · exact .inl (decide_eq_true below)
  · exact .inr (congrArg (Binary.mk _) same)

end Binary

namespace Number

/-- The numbers that representations stand for; what is not finite stands for none. -/
inductive StandsFor : Number → Rat → Prop
  | int (n : Int32) : StandsFor (.int n) n.toInt
  | long (n : Int64) : StandsFor (.long n) n.toInt
  | bigInteger (d : Decimal) : StandsFor (.bigInteger d) d.toRat
  | bigDecimal (d : Decimal) : StandsFor (.bigDecimal d) d.toRat
  | float {x : Binary32} (finite : x.isFinite) : StandsFor (.float x) x.toRat
  | double {x : Binary64} (finite : x.isFinite) : StandsFor (.double x) x.toRat
  | exact (t : NumberToken) : StandsFor (.exact t.text) t.value

def IsMeasured (n : Number) : Prop :=
  (∃ q, n.StandsFor q) ∨ ∃ negative, n = .double (.infinity negative)

theorem isMeasured_double {negative : Bool} {n : Nat} {e : Int} :
    (Number.double (.ofDecimal negative n e)).IsMeasured := by
  rcases Binary.ofDecimal_finite_or (f := .double) negative n e with finite | infinite
  · exact .inl ⟨_, .double finite⟩
  · exact .inr ⟨negative, congrArg Number.double infinite⟩

theorem isMeasured_represents {t : IntegerToken} {n : Number} (form : t.Represents n) :
    n.IsMeasured := by
  refine .inl ?_
  cases form with
  | int => exact ⟨_, .int _⟩
  | long => exact ⟨_, .long _⟩
  | bigInteger => exact ⟨_, .bigInteger _⟩
  | exact => exact ⟨_, .exact (.whole t)⟩

theorem isMeasured_decimal {t : NumberToken} {form : Decimal → Number}
    (stands : ∀ d, (form d).StandsFor d.toRat) (read : Option Decimal) :
    ((read.map form).getD (.exact t.text)).IsMeasured := by
  cases read with
  | none => exact .inl ⟨_, .exact t⟩
  | some d => exact .inl ⟨_, stands d⟩

theorem isMeasured_binary (t : NumberToken) :
    ((ofBinaryText? t.text).getD (.exact t.text)).IsMeasured := by
  unfold ofBinaryText?
  rw [t.read?_text, t.read?_text]
  dsimp only
  split
  · next kept =>
    rw [Bool.and_eq_true] at kept
    exact .inl ⟨_, .float kept.1⟩
  · exact isMeasured_double

theorem isMeasured_ofDocument (policy : NumberPolicy) (t : NumberToken) :
    (ofDocument policy t.text).IsMeasured := by
  cases t with
  | whole t => exact isMeasured_represents (t.represents_ofDocument policy)
  | fraction t =>
    have read := (NumberToken.fraction t).read?_text (f := .double)
    have marked : hasFractionMark (NumberToken.fraction t).text :=
      FractionToken.hasFractionMark_text
    unfold ofDocument ofDocumentText?
    rw [if_pos marked]
    cases policy with
    | bigDecimal => exact isMeasured_decimal .bigDecimal _
    | double =>
      dsimp only
      rw [read]
      exact isMeasured_double
    | floatAndDouble => exact isMeasured_binary (.fraction t)
    | bigInteger => exact isMeasured_binary (.fraction t)

end Number

end DocPath
