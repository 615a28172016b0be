import DocPath.Proofs.Json.Numbers
import DocPath.Value.Basic

/-!
The truth of numbers. A number is false if it is equal to the word zero. Words and decimals are
equal to it as the numbers that they stand for are; the others are compared as doubles, where a zero
with a minus sign is not zero and a text is zero that stands for a positive number too small for a
double.
-/

namespace DocPath

namespace Number

/-- Whether a number that is compared as a double has a minus sign. -/
def hasMinus : Number → Bool
  | .int _ | .long _ | .bigInteger _ | .bigDecimal _ => false
  | .float x => x.negative
  | .double x => x.negative
  | .exact t => t.toList.head? == some '-'

def isText : Number → Bool
  | .exact _ => true
  | _ => false

/-- Texts that stand for positive numbers too small for a double. -/
def Vanishes (n : Number) (q : Rat) : Prop :=
  n.isText ∧ 0 < q ∧ q ≤ Binary.Format.double.underflow

variable {n : Number} {q : Rat}

theorem not_vanishes (other : n.isText = false) : ¬n.Vanishes q := by
  rintro ⟨text, -⟩
  rw [other] at text
  exact Bool.false_ne_true text

theorem vanishes_exact {t : String} :
    (Number.exact t).Vanishes q ↔ 0 < q ∧ q ≤ Binary.Format.double.underflow :=
  and_iff_right rfl

theorem numEq_zero_of_rational (stands : n.rational? = some q) :
    n.numEq (.int 0) ↔ q = 0 ∧ n.hasMinus = false ∨ n.Vanishes q := by
  have whole : n.hasMinus = false ∧ n.isText = false := by
    cases n with
    | float | double | exact => cases stands
    | int | long | bigInteger | bigDecimal => exact ⟨rfl, rfl⟩
  rw [or_iff_left (not_vanishes whole.2), and_iff_left whole.1]
  exact numEq_iff stands rfl

theorem numEq_zero_of_double (double : n.isBinary ∨ n.toDecimal? = none) :
    n.numEq (.int 0) ↔ n.toBinary64 = .zero false := by
  have zero : toBinary64 (.int 0) = .zero false := by decide
  have decimal : toDecimal? (.int 0) ≠ none := Option.some_ne_none _
  have order : n.compareByValue (.int 0) = n.toBinary64.totalCompare (.zero false) := by
    unfold compareByValue
    rw [zero]
    split
    · rfl
    · next other =>
      have none := double.resolve_left fun binary => other (by rw [binary, Bool.true_or])
      rw [none]
  rw [numEq, beq_iff_eq, compare_eq_byValue (.inr decimal), order, Binary.totalCompare,
    Int.compare_eq_eq, Binary.orderKey_inj]

theorem binary_zero_iff {f : Binary.Format} (x : Binary f) :
    x = .zero false ↔ x.toRat = 0 ∧ x.negative = false := by
  obtain ⟨negative, magnitude⟩ := x
  rw [Binary.toRat_eq_zero_iff, Binary.zero, Binary.mk.injEq, and_comm]

theorem text_zero_iff (t : NumberToken) :
    (Number.exact t.text).toBinary64 = .zero false ↔
      t.value = 0 ∧ t.negative = false ∨
        0 < t.value ∧ t.value ≤ Binary.Format.double.underflow := by
  have magnitude : (0 : Rat) ≤ t.significand * 10 ^ t.power :=
    mul_nonneg (Nat.cast_nonneg _) (zpow_nonneg (by decide) _)
  have small := Binary.underflow_pos .double
  rw [toBinary64, t.read?_text, Option.getD_some, t.value_eq]
  cases t.negative with
  | false =>
    rw [Binary.ofDecimal_eq_zero_iff, withSign, if_neg Bool.false_ne_true, and_iff_left rfl]
    constructor
    · intro most
      exact magnitude.eq_or_lt.imp Eq.symm fun some => ⟨some, most⟩
    · rintro (none | ⟨-, most⟩)
      · rw [none]
        exact small.le
      · exact most
  | true =>
    refine iff_of_false (fun zero => ?_) ?_
    · have sign := congrArg Binary.negative zero
      rw [Binary.ofDecimal_negative] at sign
      cases sign
    · rintro (⟨-, sign⟩ | ⟨some, -⟩)
      · cases sign
      · rw [withSign, if_pos rfl, neg_pos] at some
        exact absurd some (not_lt.mpr magnitude)

theorem numEq_zero_iff (stands : n.StandsFor q) :
    n.numEq (.int 0) ↔ q = 0 ∧ n.hasMinus = false ∨ n.Vanishes q := by
  cases stands with
  | int | long | bigInteger | bigDecimal => exact numEq_zero_of_rational rfl
  | float finite =>
    rw [numEq_zero_of_double (.inl rfl), toBinary64, Binary.widen_eq_zero_iff finite,
      binary_zero_iff, or_iff_left (not_vanishes rfl), hasMinus]
  | double finite =>
    rw [numEq_zero_of_double (.inl rfl), toBinary64, binary_zero_iff,
      or_iff_left (not_vanishes rfl), hasMinus]
  | exact t =>
    rw [numEq_zero_of_double (.inr rfl), text_zero_iff, hasMinus, t.head_text, vanishes_exact]

theorem numEq_zero_infinity (negative : Bool) :
    (Number.double (.infinity negative)).numEq (.int 0) = false := by
  cases negative <;> decide

end Number

theorem Value.truthy_number (n : Number) : (Value.number n).truthy = !n.numEq (.int 0) := rfl

/-- A number is false exactly if it is equal to the word zero, that is, if it stands for zero and
its double has no minus sign, or if it is a text of a positive number that is at most half of the
least positive double. A number of a document stands for a number, or it is infinite and true. -/
theorem numbers_false_at_zero (n : Number) :
    (∀ q, n.StandsFor q →
      ((Value.number n).truthy = false ↔ n.numEq (.int 0)) ∧
        ((Value.number n).truthy = false ↔ q = 0 ∧ n.hasMinus = false ∨ n.Vanishes q)) ∧
    ∀ (text : String) (j : Json), Json.read? text = some j → j.AllNumbers fun t =>
      ∀ policy, n = .ofDocument policy t →
        (∃ q, n.StandsFor q) ∨
          (∃ negative, n = .double (.infinity negative)) ∧ (Value.number n).truthy := by
  constructor
  · intro q stands
    have equal : (Value.number n).truthy = false ↔ n.numEq (.int 0) := by
      rw [Value.truthy_number, Bool.not_eq_false']
    exact ⟨equal, equal.trans (Number.numEq_zero_iff stands)⟩
  · intro text j read
    refine (Json.allNumbers_of_read? read).mono ?_
    rintro _ ⟨t, rfl⟩ policy rfl
    refine (Number.isMeasured_ofDocument policy t).imp_right ?_
    rintro ⟨negative, infinite⟩
    rw [infinite, Value.truthy_number, Number.numEq_zero_infinity]
    exact ⟨⟨negative, rfl⟩, rfl⟩

/-- A zero with a minus sign is true, and a number that is not zero is false. A document may hold
one that is infinite for some policies. -/
theorem numbers_false_at_zero_stray :
    (Number.double (.zero true)).StandsFor 0 ∧ (Value.number (.double (.zero true))).truthy ∧
      (Number.exact "1e-400").StandsFor (10 ^ (-400 : Int)) ∧
        (Value.number (.exact "1e-400")).truthy = false ∧
          Json.read? "[1e400]" = some (.array [.number "1e+400"]) ∧ ∀ policy,
            (∃ q, (Number.ofDocument policy "1e+400").StandsFor q) ∨
              (∃ negative, Number.ofDocument policy "1e+400" = .double (.infinity negative)) ∧
                (Value.number (.ofDocument policy "1e+400")).truthy := by
  have zero : (Number.double (.zero true)).StandsFor 0 := by
    have same : (Binary.zero true : Binary64).toRat = 0 := (Binary.toRat_eq_zero_iff _).mpr rfl
    rw [← same]
    exact .double (by decide)
  have tiny : (Number.exact "1e-400").StandsFor (10 ^ (-400 : Int)) := by
    let t : NumberToken := .fraction
      ⟨⟨false, ['1'], by decide, by decide, by decide⟩, [],
        some ⟨'e', ['-'], ['4', '0', '0'], by decide, by decide, by decide, by decide⟩,
        by decide, by decide⟩
    have text : t.text = "1e-400" := by decide
    have value : t.value = 10 ^ (-400 : Int) := by
      have significand : t.significand = 1 := by decide
      have power : t.power = -400 := by decide
      rw [t.value_eq, significand, power, Nat.cast_one, one_mul]
      rfl
    rw [← text, ← value]
    exact .exact t
  have read : Json.read? "[1e400]" = some (.array [.number "1e+400"]) := rfl
  refine ⟨zero, ?_, tiny, ?_, read,
    fun policy => ((numbers_false_at_zero _).2 _ _ read).1 policy rfl⟩
  · rw [← Bool.not_eq_false, ((numbers_false_at_zero _).1 0 zero).2]
    rintro (⟨-, sign⟩ | ⟨text, -⟩)
    · cases sign
    · cases text
  · have least : Binary.Format.double.minExponent - 1 = -1075 := by decide
    have powers : (2 : Rat) ^ 1075 ≤ 10 ^ 400 :=
      calc (2 : Rat) ^ 1075 ≤ 2 ^ (3 * 400) := pow_le_pow_right₀ (by decide) (by decide)
        _ = (2 ^ 3) ^ 400 := pow_mul _ _ _
        _ ≤ 10 ^ 400 := pow_le_pow_left₀ (by decide) (by decide) _
    refine ((numbers_false_at_zero _).1 _ tiny).2.mpr
      (.inr ⟨rfl, zpow_pos (by decide) _, ?_⟩)
    rw [Binary.Format.underflow, least, zpow_neg, zpow_neg, zpow_ofNat, zpow_ofNat]
    exact inv_anti₀ (pow_pos (by decide) _) powers

end DocPath
