import Mathlib.Algebra.Order.Field.Rat
import Mathlib.Data.List.Range
import Mathlib.Tactic.Ring
import DocPath.Proofs.Number.Exact
import DocPath.Proofs.Number.Rounding
import DocPath.Proofs.Number.Unsigned

/-!
Decimals with their point moved. An exponent moves the point of a decimal exactly or not at all:
to the left as far as there are fraction digits for it, to the right as far as the coefficient
stays in range.
-/

namespace DocPath

open scoped NatPower

def withSign (negative : Bool) (q : Rat) : Rat := if negative then -q else q

theorem withSign_eq_zero {negative : Bool} {q : Rat} : withSign negative q = 0 ↔ q = 0 := by
  cases negative with
  | false => rfl
  | true => exact neg_eq_zero

theorem abs_withSign (negative : Bool) (q : Rat) : |withSign negative q| = |q| := by
  cases negative with
  | false => rfl
  | true => exact abs_neg q

theorem withSign_mul (negative : Bool) (q r : Rat) :
    withSign negative q * r = withSign negative (q * r) := by
  cases negative with
  | false => rfl
  | true => exact neg_mul q r

namespace Decimal

theorem toRat_eq (d : Decimal) :
    d.toRat = withSign d.negative (d.coefficient * (10 : Rat) ^ (-(d.scale : Int))) := by
  have scaled : d.toRat = (d.signed : Rat) * (10 : Rat) ^ (-(d.scale : Int)) := by
    rw [toRat, Rat.mkRat_eq_div, zpow_neg, zpow_natCast, div_eq_mul_inv, Nat.cast_pow]
    rfl
  rw [scaled, ← withSign_mul, signed, withSign]
  cases d.negative with
  | false => simp
  | true => simp

theorem ofUnsignedZero?_toRat (negative : Bool) {n scale : Nat} (small : n < limit)
    (places : scale ≤ maxScale) :
    ∃ d, ofUnsignedZero? negative n scale = some d ∧ d.coefficient = n ∧ d.scale = scale ∧
      d.toRat = withSign negative (n * (10 : Rat) ^ (-(scale : Int))) := by
  refine ⟨⟨negative && n != 0, n, scale, small, places⟩, dif_pos ⟨small, places⟩, rfl, rfl, ?_⟩
  rw [toRat_eq]
  cases negative with
  | false => rfl
  | true =>
    cases n with
    | zero => simp [withSign]
    | succ n => rfl

theorem toRat_of_zero {d : Decimal} (none : d.coefficient = 0) : d.toRat = 0 := by
  rw [toRat_eq, none, withSign_eq_zero, Nat.cast_zero, zero_mul]

theorem normalize_go_toRat (k : Nat) (d : Decimal) : (normalize.go k d).toRat = d.toRat := by
  induction k generalizing d with
  | zero => rfl
  | succ k ih =>
    rw [normalize.go]
    split
    · next zero =>
      obtain ⟨last, some⟩ := zero
      have tenth : (d.coefficient : Rat) = 10 * (d.coefficient / 10 : Nat) := by
        have whole : d.coefficient = 10 * (d.coefficient / 10) := by omega
        exact_mod_cast whole
      have scale : -((d.scale - 1 : Nat) : Int) = 1 + -(d.scale : Int) := by omega
      rw [ih, toRat_eq, toRat_eq]
      simp only
      rw [tenth, scale, zpow_add₀ (by decide), zpow_one]
      congr 1
      ring
    · rfl

theorem normalize_toRat (d : Decimal) : d.normalize.toRat = d.toRat := by
  unfold normalize
  split
  · next none => rw [toRat_of_zero none, toRat_of_zero rfl]
  · exact normalize_go_toRat d.scale d

theorem excess_le_iff {n k : Nat} (places : k ≤ maxScale) :
    excess n ≤ k ↔ n / 10 ^ k < limit := by
  have inside : k ∈ List.range 30 := List.mem_range.mpr (Nat.lt_of_le_of_lt places (by decide))
  unfold excess
  cases found : (List.range 30).find? fun k => decide (n / 10 ^ k < limit) with
  | none =>
    have never := List.find?_eq_none.mp found k inside
    rw [decide_eq_true_eq] at never
    exact iff_of_false (Nat.not_le.mpr (List.mem_range.mp inside)) never
  | some j =>
    obtain ⟨here, -, before⟩ := List.find?_range_eq_some.mp found
    rw [decide_eq_true_eq] at here
    rw [Option.getD_some]
    constructor
    · intro later
      have more : 10 ^ j ≤ 10 ^ k := Nat.pow_le_pow_right (by decide) later
      exact Nat.lt_of_le_of_lt (Nat.div_le_div_left more (Nat.pow_pos (by decide))) here
    · intro small
      by_contra earlier
      have other := before k (Nat.lt_of_not_le earlier)
      rw [decide_eq_true small] at other
      cases other

theorem roundEven_mul {c d : Nat} (positive : 0 < d) : roundEven (c * d) d = c :=
  Nat.le_antisymm (roundEven_le positive (Nat.le_refl _)) (le_roundEven positive (Nat.le_refl _))

/-- A number that ends with more zeros than it has fraction digits fits if it does as a whole
number. -/
theorem fit_zeros (negative : Bool) (n scale zeros : Nat) (places : scale ≤ maxScale)
    (more : scale ≤ zeros) :
    (n * 10 ^ (zeros - scale) < limit →
      ∃ d, fit negative (n * 10 ^ zeros) scale = some d ∧
        d.toRat = withSign negative (n * (10 : Rat) ^ ((zeros : Int) - scale))) ∧
    (limit ≤ n * 10 ^ (zeros - scale) → fit negative (n * 10 ^ zeros) scale = none) := by
  have split (k : Nat) (some : k ≤ zeros) :
      n * 10 ^ zeros = n * 10 ^ (zeros - k) * 10 ^ k := by
    rw [Nat.mul_assoc, ← Nat.pow_add, Nat.sub_add_cancel some]
  have quotient (k : Nat) (some : k ≤ zeros) :
      n * 10 ^ zeros / 10 ^ k = n * 10 ^ (zeros - k) := by
    rw [split k some, Nat.mul_div_cancel _ (Nat.pow_pos (by decide))]
  -- No more digits are dropped than there are fraction digits, and those are zeros.
  have only : max (excess (n * 10 ^ zeros)) (scale - maxScale) = excess (n * 10 ^ zeros) := by
    rw [Nat.sub_eq_zero_of_le places, Nat.max_zero]
  have fits := excess_le_iff (n := n * 10 ^ zeros) places
  rw [quotient scale more] at fits
  unfold fit
  simp only [only]
  generalize dropped : excess (n * 10 ^ zeros) = k at fits
  constructor
  · intro small
    have enough : k ≤ scale := fits.mpr small
    have within : k ≤ zeros := Nat.le_trans enough more
    have inside : n * 10 ^ (zeros - k) < limit := by
      rw [← quotient k within]
      exact (excess_le_iff (Nat.le_trans enough places)).mp (Nat.le_of_eq dropped)
    rw [if_neg (Nat.not_lt.mpr enough), split k within,
      roundEven_mul (Nat.pow_pos (by decide)), if_pos inside]
    obtain ⟨d, made, -, -, value⟩ := ofUnsignedZero?_toRat negative inside
      (Nat.le_trans (Nat.sub_le scale k) places)
    refine ⟨d, made, ?_⟩
    rw [value]
    congr 1
    push_cast
    rw [← zpow_natCast, mul_assoc, ← zpow_add₀ (by decide)]
    congr 2
    omega
  · intro large
    have short : scale < k := by
      by_contra enough
      exact Nat.not_lt.mpr large (fits.mp (Nat.le_of_not_lt enough))
    rw [if_pos short]

/-- Whether the point of a coefficient with some fraction digits can be moved. -/
def CanMove (n scale : Nat) (places : Int) : Prop :=
  scale - places ≤ maxScale ∧
    (places ≤ scale ∨ places ≤ maxScale ∧ n * 10 ^ (places - scale).toNat < limit)

/-- A number with its point moved to the right, or left where the places are negative. -/
def moved? (d : Decimal) (places : Int) : Option Decimal :=
  if places < 0 then d.withScale? (d.scale + places.natAbs) else d.shiftUp? places.toNat

theorem withScale?_toRat (d : Decimal) (scale : Nat) (fits : scale ≤ maxScale) :
    ∃ e, d.withScale? scale = some e ∧
      e.toRat = d.toRat * (10 : Rat) ^ ((d.scale : Int) - scale) := by
  refine ⟨⟨d.negative, d.coefficient, scale, d.coefficient_lt, fits⟩,
    dif_pos ⟨d.coefficient_lt, fits⟩, ?_⟩
  rw [toRat_eq, toRat_eq, withSign_mul, mul_assoc, ← zpow_add₀ (by decide)]
  congr 3
  ring

theorem moved?_some {d : Decimal} {places : Int} (can : CanMove d.coefficient d.scale places) :
    ∃ e, d.moved? places = some e ∧ e.toRat = d.toRat * (10 : Rat) ^ places := by
  have own := d.scale_le
  obtain ⟨low, high⟩ := can
  unfold maxScale at low high
  unfold moved?
  split
  · next left =>
    obtain ⟨e, made, value⟩ := d.withScale?_toRat (d.scale + places.natAbs)
      (by unfold maxScale; omega)
    refine ⟨e, made, ?_⟩
    rw [value]
    congr 2
    omega
  · next right =>
    unfold shiftUp?
    split
    · next few =>
      obtain ⟨e, made, value⟩ := d.withScale?_toRat (d.scale - places.toNat)
        (by unfold maxScale; omega)
      refine ⟨e, made, ?_⟩
      rw [value]
      congr 2
      omega
    · next many =>
      obtain ⟨fits, small⟩ := high.resolve_left (by omega)
      rw [if_neg (by unfold maxScale; omega)]
      split
      · next none =>
        refine ⟨zero, rfl, ?_⟩
        rw [toRat_of_zero none, toRat_of_zero rfl, zero_mul]
      · have same : (places - d.scale).toNat = places.toNat - d.scale := by omega
        rw [same] at small
        obtain ⟨e, made, value⟩ := (fit_zeros d.negative d.coefficient d.scale places.toNat
          own (by omega)).1 small
        refine ⟨e.normalize, by rw [made]; rfl, ?_⟩
        rw [normalize_toRat, value, toRat_eq, withSign_mul, mul_assoc, ← zpow_add₀ (by decide)]
        congr 3
        omega

theorem moved?_none {d : Decimal} {places : Int} (cannot : ¬CanMove d.coefficient d.scale places) :
    d.moved? places = none := by
  have own := d.scale_le
  unfold CanMove maxScale at cannot
  unfold moved?
  split
  · next left =>
    have beyond : ¬(d.coefficient < 2 ^ (96 : Nat) ∧ d.scale + places.natAbs ≤ 28) := by omega
    exact dif_neg beyond
  · next right =>
    unfold shiftUp?
    rw [if_neg (by omega)]
    split
    · rfl
    · next few =>
      unfold maxScale at few
      have large : limit ≤ d.coefficient * 10 ^ (places.toNat - d.scale) := by
        by_contra small
        have same : places.toNat - d.scale = (places - d.scale).toNat := by omega
        rw [same] at small
        omega
      have some : d.coefficient ≠ 0 := by
        intro none
        rw [none, Nat.zero_mul] at large
        exact absurd large (by decide)
      rw [if_neg some, (fit_zeros _ _ _ _ own (by omega)).2 large]
      rfl

end Decimal
end DocPath
