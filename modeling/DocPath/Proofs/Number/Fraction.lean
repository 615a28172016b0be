import Mathlib.Algebra.Order.Ring.Abs
import Mathlib.Algebra.Order.Ring.Cast
import Mathlib.Data.Nat.Find
import DocPath.Proofs.Number.Digits
import DocPath.Proofs.Number.Scaling

/-!
Fractions of documents as decimals. Of the digits behind the point as many are kept as a decimal
has room for; the first of the others rounds the last kept one, and the exponent moves the point of
what there is then. So a number that fits is the one that its text denotes unless a digit that is
not zero was cut, and a number that does not fit keeps its text.
-/

namespace DocPath

open scoped NatPower

structure Exponent where
  mark : Char
  sign : List Char
  digits : List Char
  marks : Decimal.isExponentMark mark
  signs : sign = [] ∨ sign = ['+'] ∨ sign = ['-']
  all_digits : digits.all isDigit
  digits_ne_nil : digits ≠ []

namespace Exponent

def value (e : Exponent) : Int :=
  if e.sign = ['-'] then -(numeral e.digits : Int) else numeral e.digits

def chars (e : Exponent) : List Char := e.mark :: (e.sign ++ e.digits)

variable (e : Exponent)

theorem readScale?_digits :
    Decimal.readScale? e.digits =
      if numeral e.digits < 2 ^ (32 : Nat) then some (numeral e.digits) else none := by
  obtain ⟨d, ds, digits, first⟩ := digits_cons e.all_digits e.digits_ne_nil
  have plus : d ≠ '+' := digit_ne first (by decide)
  have all := e.all_digits
  rw [digits] at all ⊢
  simp [Decimal.readScale?, plus, all]

theorem readScale?_plus :
    Decimal.readScale? ('+' :: e.digits) = Decimal.readScale? e.digits := by
  have full : e.digits.isEmpty = false := by simpa using e.digits_ne_nil
  rw [readScale?_digits]
  simp only [Decimal.readScale?, full, e.all_digits, Bool.not_true, Bool.or_self,
    Bool.false_eq_true, if_false]

theorem readScale?_right (d : Decimal) :
    (Decimal.readScale? e.digits).bind d.shiftUp? = d.moved? (numeral e.digits) := by
  rw [readScale?_digits]
  split
  · have right : ¬(numeral e.digits : Int) < 0 := by omega
    rw [Decimal.moved?, if_neg right, Int.toNat_natCast]
    rfl
  · next large =>
    have own := d.scale_le
    refine (Decimal.moved?_none ?_).symm
    unfold Decimal.CanMove Decimal.maxScale
    omega

theorem readScale?_left (d : Decimal) :
    ((Decimal.readScale? e.digits).bind fun n => d.withScale? (d.scale + n)) =
      d.moved? (-(numeral e.digits : Int)) := by
  rw [readScale?_digits]
  split
  · rw [Option.bind_some, Decimal.moved?]
    split
    · rw [Int.natAbs_neg, Int.natAbs_natCast]
    · next right =>
      have zero : numeral e.digits = 0 := by omega
      rw [zero]
      rfl
  · next large =>
    have own := d.scale_le
    refine (Decimal.moved?_none ?_).symm
    unfold Decimal.CanMove Decimal.maxScale
    omega

theorem readScientific?_eq (base : List Char) :
    Decimal.readScientific? base (e.sign ++ e.digits) =
      (Decimal.readPlain? base).bind (·.moved? e.value) := by
  unfold Decimal.readScientific?
  congr 1
  funext d
  have right := e.readScale?_right d
  have left := e.readScale?_left d
  unfold value
  rcases e.signs with sign | sign | sign
  · obtain ⟨c, cs, digits, first⟩ := digits_cons e.all_digits e.digits_ne_nil
    have minus : c ≠ '-' := digit_ne first (by decide)
    rw [sign, List.nil_append, if_neg nofun, ← right, digits]
    split
    · next same => exact absurd (List.cons.inj same).1 minus
    · rfl
  · rw [sign, if_neg (by decide), ← right, ← readScale?_plus]
    rfl
  · rw [sign, if_pos rfl, ← left]
    rfl

end Exponent

structure FractionToken where
  whole : IntegerToken
  /-- The digits behind the point; none where there is no point. -/
  fraction : List Char
  exponent : Option Exponent
  all_fraction : fraction.all isDigit
  marked : fraction ≠ [] ∨ exponent.isSome

namespace FractionToken

variable (t : FractionToken)

def base : List Char := t.whole.chars ++ if t.fraction = [] then [] else '.' :: t.fraction

def chars : List Char := t.base ++ (t.exponent.map Exponent.chars).getD []

def text : String := String.ofList t.chars

def power : Int := (t.exponent.map Exponent.value).getD 0

def value : Rat :=
  withSign t.whole.negative
    (numeral (t.whole.digits ++ t.fraction) * (10 : Rat) ^ (t.power - t.fraction.length))

def leading (k : Nat) : Nat := numeral (t.whole.digits ++ t.fraction.take k)

/-- The number of fraction digits for which a decimal has room. -/
def kept : Nat :=
  Nat.findGreatest (fun k => t.leading k < Decimal.limit)
    (min Decimal.maxScale t.fraction.length)

def surplus : List Char := t.fraction.drop t.kept

def IsCut : Prop := ∃ c ∈ t.surplus, c ≠ '0'

def rounded : Nat :=
  t.leading t.kept + if t.surplus.head?.any (5 ≤ digitValue ·) then 1 else 0

/-- The coefficient; if rounding leads out of range, there is one fraction digit less. -/
def coefficient : Nat := if t.rounded < Decimal.limit then t.rounded else (t.rounded + 4) / 10

def scale : Nat := if t.rounded < Decimal.limit then t.kept else t.kept - 1

/-- Whether a decimal has room for the whole part and the exponent can move its point. -/
def Fits : Prop :=
  t.whole.magnitude < Decimal.limit ∧ (t.rounded < Decimal.limit ∨ 0 < t.kept) ∧
    Decimal.CanMove t.coefficient t.scale t.power

/-- The number that a decimal for a token stands for. -/
def approximation : Rat :=
  withSign t.whole.negative (t.coefficient * (10 : Rat) ^ (t.power - t.scale))

section
variable {t}

theorem leading_zero : t.leading 0 = t.whole.magnitude := by
  rw [leading, List.take_zero, List.append_nil, IntegerToken.magnitude]

theorem leading_succ {k : Nat} {c : Char} {cs : List Char} (next : t.fraction.drop k = c :: cs) :
    t.leading (k + 1) = 10 * t.leading k + digitValue c := by
  have here : t.fraction[k]? = some c := by
    rw [← List.head?_drop, next, List.head?_cons]
  rw [leading, leading, List.take_add_one, here, Option.toList_some, ← List.append_assoc,
    numeral_concat]

theorem kept_le : t.kept ≤ Decimal.maxScale ∧ t.kept ≤ t.fraction.length :=
  Nat.le_min.mp (Nat.findGreatest_le _)

theorem leading_kept (inside : t.whole.magnitude < Decimal.limit) :
    t.leading t.kept < Decimal.limit := by
  have none : t.leading 0 < Decimal.limit := by rwa [leading_zero]
  exact Nat.findGreatest_spec (P := fun k => t.leading k < Decimal.limit) (Nat.zero_le _) none

/-- Where fewer digits are kept than there could be places for them, the next one has no room. -/
theorem leading_next (room : t.kept < Decimal.maxScale) (more : t.kept < t.fraction.length) :
    Decimal.limit ≤ t.leading (t.kept + 1) := by
  have places : t.kept + 1 ≤ min Decimal.maxScale t.fraction.length := Nat.le_min.mpr ⟨room, more⟩
  have far := Nat.findGreatest_is_greatest (P := fun k => t.leading k < Decimal.limit)
    (Nat.lt_succ_self t.kept) places
  exact Nat.le_of_not_lt far

theorem all_surplus : t.surplus.all isDigit := by
  have all := List.all_eq_true.mp t.all_fraction
  exact List.all_eq_true.mpr fun c mem => all c (List.mem_of_mem_drop mem)

theorem read?_surplus :
    Decimal.Reading.read? t.whole.negative ⟨t.leading t.kept, t.kept, true, true⟩ t.surplus =
      match t.surplus with
      | [] => Decimal.ofUnsignedZero? t.whole.negative (t.leading t.kept) t.kept
      | c :: _ =>
        Decimal.Reading.round? t.whole.negative ⟨t.leading t.kept, t.kept, true, true⟩ c := by
  cases cut : t.surplus with
  | nil => rfl
  | cons c cs =>
    have all := all_surplus (t := t)
    rw [cut, List.all_cons, Bool.and_eq_true] at all
    have more : t.kept < t.fraction.length := by
      by_contra few
      rw [surplus, List.drop_eq_nil_of_le (Nat.le_of_not_lt few)] at cut
      cases cut
    rw [Decimal.Reading.read?]
    by_cases room : t.kept < Decimal.maxScale
    · have large := leading_next room more
      rw [leading_succ cut] at large
      have places : (true && decide (Decimal.maxScale ≤ t.kept)) = false := by
        simpa using room
      simp only [places, all.1, Nat.not_lt.mpr large, if_true, if_false, Bool.false_eq_true]
    · have places : (true && decide (Decimal.maxScale ≤ t.kept)) = true := by
        simpa using room
      simp only [places, if_true]

theorem readPlain?_base (inside : t.whole.magnitude < Decimal.limit) :
    Decimal.readPlain? t.base =
      Decimal.Reading.read? t.whole.negative ⟨t.leading t.kept, t.kept, true, true⟩ t.surplus := by
  have few := kept_le (t := t)
  have full : t.whole.digits.isEmpty = false := by simpa using t.whole.digits_ne_nil
  have run (rest : List Char) := Decimal.Reading.read?_digits t.whole.negative
    ⟨0, 0, false, false⟩ rest t.whole.all_digits inside (fun _ => rfl)
    (fun seen => absurd seen Bool.false_ne_true)
  simp only [full, Bool.not_false, Bool.or_true, numeralFrom_zero, Bool.false_eq_true, if_false]
    at run
  unfold base
  split
  · next none =>
    have zero : t.kept = 0 := by
      rw [none] at few
      exact Nat.le_zero.mp few.2
    rw [Decimal.readPlain?_token, run, surplus, zero, none, leading_zero]
    rfl
  · next some =>
    have point : isDigit '.' = false := by decide
    have start : Decimal.Reading.read? t.whole.negative
        ⟨numeral t.whole.digits, 0, false, true⟩ ('.' :: t.fraction) =
          Decimal.Reading.read? t.whole.negative ⟨numeral t.whole.digits, 0, true, true⟩
            t.fraction := by
      rw [Decimal.Reading.read?]
      simp only [Bool.false_and, Bool.false_eq_true, if_false, point, Bool.not_false,
        Bool.and_true, decide_true, if_true]
    have total : numeralFrom (numeral t.whole.digits) (t.fraction.take t.kept) =
        t.leading t.kept := (numeralFrom_append 0 _ _).symm
    have length : (t.fraction.take t.kept).length = t.kept := by
      rw [List.length_take, Nat.min_eq_left few.2]
    have digits : (t.fraction.take t.kept).all isDigit := by
      have all := List.all_eq_true.mp t.all_fraction
      exact List.all_eq_true.mpr fun c mem => all c (List.mem_of_mem_take mem)
    -- As many digits are kept as there is room for, so all of them move the reading on.
    have step := Decimal.Reading.read?_digits t.whole.negative
      ⟨numeral t.whole.digits, 0, true, true⟩ t.surplus digits
      (by rw [total]; exact leading_kept inside) (fun seen => absurd seen.symm Bool.false_ne_true)
      (fun _ => by rw [length, Nat.zero_add]; exact few.1)
    rw [surplus, List.take_append_drop] at step
    simp only [total, length, if_true, Nat.zero_add, Bool.true_or] at step
    rw [Decimal.readPlain?_token, run, start, step]
    rfl

theorem read?_rounded (inside : t.whole.magnitude < Decimal.limit) :
    Decimal.Reading.read? t.whole.negative ⟨t.leading t.kept, t.kept, true, true⟩ t.surplus =
      if t.rounded < Decimal.limit ∨ 0 < t.kept then
        Decimal.ofUnsignedZero? t.whole.negative t.coefficient t.scale
      else none := by
  rw [read?_surplus]
  cases cut : t.surplus with
  | nil =>
    have same : t.rounded = t.leading t.kept := by rw [rounded, cut]; rfl
    have small : t.rounded < Decimal.limit := by rw [same]; exact leading_kept inside
    rw [if_pos (.inl small), coefficient, scale, if_pos small, if_pos small, same]
  | cons c cs =>
    have digit : isDigit c := by
      have all := all_surplus (t := t)
      rw [cut, List.all_cons, Bool.and_eq_true] at all
      exact all.1
    have same : (if 5 ≤ digitValue c then t.leading t.kept + 1 else t.leading t.kept) =
        t.rounded := by
      rw [rounded, cut, List.head?_cons, Option.any_some]
      simp only [decide_eq_true_eq]
      split <;> rfl
    unfold Decimal.Reading.round?
    simp only [digit, if_true, Option.bind_some, same, coefficient, scale]
    by_cases small : t.rounded < Decimal.limit
    · simp only [small, true_or, if_true]
    · simp only [small, false_or, if_false]
      by_cases none : t.kept = 0
      · simp only [none, if_true, Nat.lt_irrefl, if_false]
      · simp only [none, if_false, Nat.pos_of_ne_zero none, if_true]

theorem rounded_le (inside : t.whole.magnitude < Decimal.limit) : t.rounded ≤ Decimal.limit := by
  have small := leading_kept inside
  unfold rounded
  split <;> omega

theorem coefficient_lt (inside : t.whole.magnitude < Decimal.limit) :
    t.coefficient < Decimal.limit := by
  have most := rounded_le inside
  unfold coefficient Decimal.limit at *
  split <;> omega

theorem scale_le : t.scale ≤ Decimal.maxScale := by
  have few := kept_le (t := t)
  unfold scale
  split <;> omega

theorem readPlain?_some (inside : t.whole.magnitude < Decimal.limit)
    (room : t.rounded < Decimal.limit ∨ 0 < t.kept) :
    ∃ d, Decimal.readPlain? t.base = some d ∧ d.coefficient = t.coefficient ∧
      d.scale = t.scale ∧
      d.toRat = withSign t.whole.negative (t.coefficient * (10 : Rat) ^ (-(t.scale : Int))) := by
  rw [readPlain?_base inside, read?_rounded inside, if_pos room]
  exact Decimal.ofUnsignedZero?_toRat t.whole.negative (coefficient_lt inside) scale_le

theorem readPlain?_none
    (beyond : ¬(t.whole.magnitude < Decimal.limit ∧ (t.rounded < Decimal.limit ∨ 0 < t.kept))) :
    Decimal.readPlain? t.base = none := by
  by_cases inside : t.whole.magnitude < Decimal.limit
  · rw [readPlain?_base inside, read?_rounded inside, if_neg fun room => beyond ⟨inside, room⟩]
  · rw [base, Decimal.readPlain?_token]
    exact Decimal.Reading.read?_beyond _ _ _ t.whole.all_digits rfl (by decide)
      (Nat.le_of_not_lt inside)

theorem base_unmarked {c : Char} (mem : c ∈ t.base) : Decimal.isExponentMark c = false := by
  rcases List.mem_append.mp mem with mem | mem
  · rcases t.whole.mem_chars mem with rfl | digit
    · decide
    · exact Decimal.isExponentMark_of_isDigit digit
  · split at mem
    · cases mem
    · rcases List.mem_cons.mp mem with rfl | mem
      · decide
      · exact Decimal.isExponentMark_of_isDigit (List.all_eq_true.mp t.all_fraction c mem)

theorem read?_text :
    Decimal.read? t.text = (Decimal.readPlain? t.base).bind (·.moved? t.power) := by
  have unmarked (c : Char) (mem : c ∈ t.base) := base_unmarked mem
  cases exponent : t.exponent with
  | none =>
    have still (d : Decimal) : d.moved? 0 = some d := dif_pos ⟨d.coefficient_lt, d.scale_le⟩
    have chars : t.chars = t.base := by
      rw [FractionToken.chars, exponent]
      exact List.append_nil _
    rw [text, chars, Decimal.read?_plain unmarked, power, exponent]
    simp only [Option.map_none, Option.getD_none, still, Option.bind_fun_some]
  | some e =>
    have chars : t.chars = t.base ++ e.mark :: (e.sign ++ e.digits) := by
      rw [FractionToken.chars, exponent]
      rfl
    have front : (t.base ++ e.mark :: (e.sign ++ e.digits)).takeWhile
        (!Decimal.isExponentMark ·) = t.base := by
      rw [List.takeWhile_append_of_pos fun c mem => by rw [unmarked c mem, Bool.not_false],
        List.takeWhile_cons_of_neg (by simp [e.marks]), List.append_nil]
    have behind : (t.base ++ e.mark :: (e.sign ++ e.digits)).dropWhile
        (!Decimal.isExponentMark ·) = e.mark :: (e.sign ++ e.digits) := by
      rw [List.dropWhile_append_of_pos fun c mem => by rw [unmarked c mem, Bool.not_false],
        List.dropWhile_cons_of_neg (by simp [e.marks])]
    rw [power, exponent, Option.map_some, Option.getD_some, ← e.readScientific?_eq, text, chars,
      Decimal.read?, String.toList_ofList]
    simp only [front, behind]

theorem hasFractionMark_text : Number.hasFractionMark t.text := by
  rw [Number.hasFractionMark, text, String.toList_ofList, List.any_eq_true, chars]
  by_cases point : t.fraction = []
  · obtain ⟨e, exponent⟩ := Option.isSome_iff_exists.mp (t.marked.resolve_left (absurd point))
    refine ⟨e.mark, ?_, ?_⟩
    · rw [exponent]
      exact List.mem_append_right _ List.mem_cons_self
    · have marks := e.marks
      simp only [Decimal.isExponentMark, Bool.or_eq_true, decide_eq_true_eq] at marks
      simpa [or_assoc] using Or.inr marks
  · refine ⟨'.', List.mem_append_left _ ?_, by decide⟩
    rw [base, if_neg point]
    exact List.mem_append_right _ List.mem_cons_self

theorem numeral_half {c : Char} {cs : List Char} (all : (c :: cs).all isDigit) :
    5 ≤ digitValue c ↔ 10 ^ (c :: cs).length ≤ 2 * numeral (c :: cs) := by
  rw [List.all_cons, Bool.and_eq_true] at all
  have rest := numeral_lt all.2
  rw [numeral_cons, List.length_cons, Nat.pow_succ]
  generalize 10 ^ cs.length = unit at rest
  constructor
  · intro large
    have most : 5 * unit ≤ digitValue c * unit := Nat.mul_le_mul_right _ large
    omega
  · intro large
    by_contra small
    have most : digitValue c * unit ≤ 4 * unit := Nat.mul_le_mul_right _ (by omega)
    omega

theorem rounded_eq :
    t.rounded = t.leading t.kept +
      if t.surplus ≠ [] ∧ 10 ^ t.surplus.length ≤ 2 * numeral t.surplus then 1 else 0 := by
  have all := all_surplus (t := t)
  rw [rounded]
  cases cut : t.surplus with
  | nil => simp
  | cons c cs =>
    rw [cut] at all
    simp [numeral_half all]

theorem isCut_iff : t.IsCut ↔ numeral t.surplus ≠ 0 := by
  rw [Ne, numeral_eq_zero_iff all_surplus, IsCut]
  push Not
  rfl

theorem numeral_kept :
    numeral (t.whole.digits ++ t.fraction) =
      t.leading t.kept * 10 ^ t.surplus.length + numeral t.surplus := by
  have parts : t.whole.digits ++ t.fraction =
      (t.whole.digits ++ t.fraction.take t.kept) ++ t.surplus := by
    rw [surplus, List.append_assoc, List.take_append_drop]
  rw [parts, ← numeralFrom_zero, numeralFrom_append, numeralFrom_zero, numeralFrom_eq]
  rfl

theorem pow_length : 10 ^ t.fraction.length = 10 ^ t.kept * 10 ^ t.surplus.length := by
  have few := kept_le (t := t)
  rw [← Nat.pow_add, surplus, List.length_drop, Nat.add_sub_cancel' few.2]

/-- The error of a coefficient, in units of the last digit of the token. -/
def error (t : FractionToken) : Int :=
  (t.coefficient * 10 ^ t.fraction.length : Nat) -
    (numeral (t.whole.digits ++ t.fraction) * 10 ^ t.scale : Nat)

theorem error_of_small (small : t.rounded < Decimal.limit) :
    t.error = (10 ^ t.kept : Nat) *
      ((if t.surplus ≠ [] ∧ 10 ^ t.surplus.length ≤ 2 * numeral t.surplus then
        10 ^ t.surplus.length else 0 : Nat) - (numeral t.surplus : Int)) := by
  rw [error, numeral_kept, pow_length, coefficient, scale, if_pos small, if_pos small, rounded_eq]
  split
  · push_cast
    ring
  · push_cast
    ring

/-- Where rounding leads out of range, all digits kept are those of the greatest coefficient, and
the error is half a unit of the last one less what is cut. -/
theorem error_of_large (inside : t.whole.magnitude < Decimal.limit)
    (large : ¬t.rounded < Decimal.limit) (some : 0 < t.kept) :
    10 ^ t.surplus.length ≤ 2 * numeral t.surplus ∧
      t.error = (10 ^ (t.kept - 1) : Nat) *
        (5 * (10 ^ t.surplus.length : Nat) - (numeral t.surplus : Int)) := by
  have kept := leading_kept inside
  have carried := rounded_eq (t := t)
  have half : t.surplus ≠ [] ∧ 10 ^ t.surplus.length ≤ 2 * numeral t.surplus := by
    by_contra other
    rw [if_neg other] at carried
    omega
  rw [if_pos half] at carried
  have tenth : 10 * t.coefficient = t.leading t.kept + 5 := by
    rw [coefficient, if_neg large, carried]
    unfold Decimal.limit at *
    omega
  have unit : 10 ^ t.kept = 10 ^ (t.kept - 1) * 10 := by
    rw [← Nat.pow_succ, Nat.succ_eq_add_one, Nat.sub_add_cancel some]
  have product : t.coefficient * (10 ^ t.kept * 10 ^ t.surplus.length) =
      (t.leading t.kept + 5) * (10 ^ (t.kept - 1) * 10 ^ t.surplus.length) := by
    rw [← tenth, unit]
    ring
  refine ⟨half.2, ?_⟩
  rw [error, numeral_kept, pow_length, product, scale, if_neg large]
  push_cast
  ring

theorem error_of_units {unit : Nat} (width : Nat) {part : Int} (some : 0 < unit)
    (error : t.error = unit * part) (uncut : part = 0 ↔ numeral t.surplus = 0)
    (near : 2 * part.natAbs ≤ width) (whole : unit * width = 10 ^ t.fraction.length) :
    (t.error = 0 ↔ ¬t.IsCut) ∧ 2 * t.error.natAbs ≤ 10 ^ t.fraction.length := by
  rw [error, isCut_iff, Ne, not_not, ← uncut, ← whole, Int.natAbs_mul, Int.natAbs_natCast,
    Nat.mul_left_comm, Int.mul_eq_zero, Int.natCast_eq_zero, or_iff_right (Nat.ne_of_gt some)]
  exact ⟨Iff.rfl, Nat.mul_le_mul_left _ near⟩

theorem error_spec (inside : t.whole.magnitude < Decimal.limit)
    (room : t.rounded < Decimal.limit ∨ 0 < t.kept) :
    (t.error = 0 ↔ ¬t.IsCut) ∧ 2 * t.error.natAbs ≤ 10 ^ t.fraction.length := by
  have below := numeral_lt (all_surplus (t := t))
  by_cases small : t.rounded < Decimal.limit
  · have nothing : t.surplus = [] → numeral t.surplus = 0 := fun none => by rw [none]; rfl
    refine error_of_units _ (Nat.pow_pos (by decide)) (error_of_small small) ?_ ?_ pow_length.symm
    · split <;> omega
    · split
      · omega
      · next less =>
        by_cases none : t.surplus = []
        · rw [nothing none]
          omega
        · have few : ¬10 ^ t.surplus.length ≤ 2 * numeral t.surplus :=
            fun more => less ⟨none, more⟩
          omega
  · have some := room.resolve_left small
    obtain ⟨half, error⟩ := error_of_large inside small some
    refine error_of_units (10 * 10 ^ t.surplus.length) (Nat.pow_pos (by decide)) error
      (by omega) (by omega) ?_
    rw [pow_length, ← Nat.mul_assoc, ← Nat.pow_succ, Nat.succ_eq_add_one, Nat.sub_add_cancel some]

theorem approximation_sub_value :
    t.approximation - t.value =
      withSign t.whole.negative
        (t.error * (10 : Rat) ^ (t.power - t.scale - t.fraction.length)) := by
  have moved (n : Nat) (j k : Nat) : (n : Rat) * (10 : Rat) ^ (t.power - j) =
      (n * 10 ^ k : Nat) * (10 : Rat) ^ (t.power - j - k) := by
    push_cast
    rw [mul_assoc, ← zpow_natCast, ← zpow_add₀ (by decide)]
    congr 2
    ring
  have swap : t.power - t.fraction.length - t.scale = t.power - t.scale - t.fraction.length := by
    ring
  rw [approximation, value, moved t.coefficient t.scale t.fraction.length,
    moved _ t.fraction.length t.scale, swap, error]
  push_cast
  cases t.whole.negative with
  | false =>
    simp only [withSign, Bool.false_eq_true, if_false]
    ring
  | true =>
    simp only [withSign, if_true]
    ring

/-- A decimal for a token is at most half a unit of its last digit off, and not at all exactly if
no digit but zeros was cut. -/
theorem approximation_spec (inside : t.whole.magnitude < Decimal.limit)
    (room : t.rounded < Decimal.limit ∨ 0 < t.kept) :
    (t.approximation = t.value ↔ ¬t.IsCut) ∧
      2 * |t.approximation - t.value| ≤ (10 : Rat) ^ (t.power - t.scale) := by
  obtain ⟨uncut, near⟩ := error_spec inside room
  have last : (0 : Rat) < (10 : Rat) ^ (t.power - t.scale - t.fraction.length) :=
    zpow_pos (by decide) _
  have most : 2 * |(t.error : Rat)| ≤ (10 : Rat) ^ t.fraction.length := by
    rw [← Int.cast_abs, Int.abs_eq_natAbs]
    exact_mod_cast near
  constructor
  · rw [← sub_eq_zero, approximation_sub_value, withSign_eq_zero, mul_eq_zero,
      or_iff_left last.ne', Int.cast_eq_zero, uncut]
  · calc 2 * |t.approximation - t.value|
        = 2 * |(t.error : Rat)| * (10 : Rat) ^ (t.power - t.scale - t.fraction.length) := by
          rw [approximation_sub_value, abs_withSign, abs_mul, abs_of_pos last, mul_assoc]
      _ ≤ (10 : Rat) ^ t.fraction.length *
            (10 : Rat) ^ (t.power - t.scale - t.fraction.length) :=
          mul_le_mul_of_nonneg_right most last.le
      _ = (10 : Rat) ^ (t.power - t.scale) := by
          rw [← zpow_natCast, ← zpow_add₀ (by decide)]
          congr 1
          ring

end

end FractionToken

/-- What a number with a fraction or an exponent is read as where fractions are decimals. If it
fits, a decimal at most half a unit of its last digit off, which stands for the number exactly if no
digit but zeros was cut; if it does not fit, its text. -/
theorem fractions_as_decimals (t : FractionToken) :
    (t.Fits → ∃ d, Number.ofDocument .bigDecimal t.text = .bigDecimal d ∧
      d.toRat = t.approximation ∧ (d.toRat = t.value ↔ ¬t.IsCut) ∧
        2 * |d.toRat - t.value| ≤ (10 : Rat) ^ (t.power - t.scale)) ∧
    (¬t.Fits → Number.ofDocument .bigDecimal t.text = .exact t.text) := by
  have read : Number.ofDocument .bigDecimal t.text =
      (((Decimal.readPlain? t.base).bind (·.moved? t.power)).map .bigDecimal).getD
        (.exact t.text) := by
    rw [Number.ofDocument, Number.ofDocumentText?, if_pos FractionToken.hasFractionMark_text,
      ← FractionToken.read?_text]
  rw [read]
  constructor
  · rintro ⟨inside, room, can⟩
    obtain ⟨d, plain, coefficient, scale, value⟩ := FractionToken.readPlain?_some inside room
    rw [← coefficient, ← scale] at can
    obtain ⟨e, moved, product⟩ := Decimal.moved?_some can
    have stands : e.toRat = t.approximation := by
      rw [product, value, withSign_mul, mul_assoc, ← zpow_add₀ (by decide),
        FractionToken.approximation]
      congr 3
      ring
    refine ⟨e, by rw [plain, Option.bind_some, moved]; rfl, stands, ?_⟩
    rw [stands]
    exact FractionToken.approximation_spec inside room
  · intro beyond
    by_cases room : t.whole.magnitude < Decimal.limit ∧ (t.rounded < Decimal.limit ∨ 0 < t.kept)
    · obtain ⟨d, plain, coefficient, scale, -⟩ := FractionToken.readPlain?_some room.1 room.2
      have cannot : ¬Decimal.CanMove d.coefficient d.scale t.power := by
        rw [coefficient, scale]
        exact fun can => beyond ⟨room.1, room.2, can⟩
      rw [plain, Option.bind_some, Decimal.moved?_none cannot]
      rfl
    · rw [FractionToken.readPlain?_none room]
      rfl

/-- One fraction digit more than a decimal has room for. -/
theorem fractions_as_decimals_cut :
    let t : FractionToken :=
      ⟨⟨false, ['0'], rfl, nofun, fun _ => rfl⟩, "12345678901234567890123456789".toList, none,
        by decide, .inl (by decide)⟩
    t.text = "0.12345678901234567890123456789" ∧ t.Fits ∧ t.IsCut ∧
      ∃ d, Number.ofDocument .bigDecimal t.text = .bigDecimal d ∧ d.toRat ≠ t.value := by
  intro t
  have kept : t.kept = 28 := by decide +kernel
  have fits : t.Fits := by
    have places := FractionToken.scale_le (t := t)
    have still : t.power = 0 := rfl
    refine ⟨by decide, .inr (by rw [kept]; decide), ?_⟩
    rw [still]
    unfold Decimal.CanMove
    omega
  have cut : t.IsCut := by
    refine ⟨'9', ?_, by decide⟩
    rw [FractionToken.surplus, kept]
    decide
  obtain ⟨d, read, -, stands, -⟩ := (fractions_as_decimals t).1 fits
  exact ⟨by decide, fits, cut, d, read, fun same => stands.mp same cut⟩

end DocPath
