import Mathlib.Data.Nat.Digits.Defs
import DocPath.Proofs.Number.Scaling

/-!
Numbers too small for a double. A positive number has the double zero exactly if it is at most half
of the least positive double, the tie being broken to the even side; on the way to its double
nothing else is taken for zero.
-/

namespace DocPath

open scoped NatPower

section Split

variable {b : Rat} (positive : 0 < b) (e : Int) (x y : Rat)

include positive

theorem zpow_mul_pow_neg : b ^ e * b ^ (-e).toNat = b ^ e.toNat := by
  rw [← zpow_natCast, ← zpow_natCast, ← zpow_add₀ positive.ne']
  congr 1
  omega

theorem mul_pow_le_mul_pow_neg : x * b ^ e.toNat ≤ y * b ^ (-e).toNat ↔ x * b ^ e ≤ y := by
  rw [← zpow_mul_pow_neg positive e, ← mul_assoc, mul_le_mul_iff_left₀ (pow_pos positive _)]

theorem mul_pow_neg_le_mul_pow : x * b ^ (-e).toNat ≤ y * b ^ e.toNat ↔ x ≤ y * b ^ e := by
  rw [← zpow_mul_pow_neg positive e, ← mul_assoc y, mul_le_mul_iff_left₀ (pow_pos positive _)]

end Split

theorem roundEven_eq_zero_iff {n d : Nat} (positive : 0 < d) :
    roundEven n d = 0 ↔ 2 * n ≤ d := by
  have parts := Nat.div_add_mod n d
  have rest := Nat.mod_lt n positive
  unfold roundEven
  dsimp only
  rcases Nat.eq_zero_or_pos (n / d) with none | some
  · rw [none, Nat.mul_zero, Nat.zero_add] at parts
    rw [none, parts]
    split <;> omega
  · have whole : d * 1 ≤ d * (n / d) := Nat.mul_le_mul_left d some
    split <;> omega

namespace Binary

theorem two_zpow_floorLog2_le {num : Nat} (den : Nat) (some : num ≠ 0) :
    den * (2 : Rat) ^ floorLog2 num den ≤ num := by
  have two : (0 : Rat) < 2 := by decide
  unfold floorLog2
  dsimp only
  generalize logs : (num.log2 : Int) - den.log2 = e
  split
  · have low : ((2 ^ num.log2 : Nat) : Rat) ≤ num := by
      exact_mod_cast Nat.log2_self_le some
    have high : (den : Rat) ≤ (2 ^ (den.log2 + 1) : Nat) := by
      exact_mod_cast Nat.le_of_lt Nat.lt_log2_self
    calc (den : Rat) * 2 ^ (e - 1)
        ≤ (2 ^ (den.log2 + 1) : Nat) * 2 ^ (e - 1) :=
          mul_le_mul_of_nonneg_right high (zpow_nonneg two.le _)
      _ = (2 ^ num.log2 : Nat) := by
          push_cast
          rw [← zpow_natCast, ← zpow_natCast, ← zpow_add₀ two.ne']
          congr 1
          omega
      _ ≤ num := low
  · next above =>
    have ratio : ((den * 2 ^ e.toNat : Nat) : Rat) ≤ (num * 2 ^ (-e).toNat : Nat) := by
      exact_mod_cast Nat.le_of_not_lt above
    push_cast at ratio
    exact (mul_pow_le_mul_pow_neg two e den num).mp ratio

/-- Half of the least positive number of a format. -/
def Format.underflow (f : Format) : Rat := 2 ^ (f.minExponent - 1)

variable {f : Format}

theorem underflow_pos (f : Format) : 0 < f.underflow := zpow_pos (by decide) _

theorem encode_eq_zero_iff (range : 0 < f.top) (num : Nat) {den : Nat} (positive : 0 < den) :
    f.encode num den = 0 ↔ (num : Rat) ≤ den * f.underflow := by
  have two : (0 : Rat) < 2 := by decide
  have unit : (0 : Rat) < den := by exact_mod_cast positive
  unfold Format.encode
  split
  · next none =>
    rw [none, Nat.cast_zero]
    exact iff_of_true rfl (mul_nonneg unit.le (underflow_pos f).le)
  · next some =>
    have log := two_zpow_floorLog2_le den some
    dsimp only
    by_cases low : floorLog2 num den - f.fractionBits ≤ f.minExponent
    · -- On the least spacing the significand decides.
      have half : (2 : Rat) ^ f.minExponent = 2 * f.underflow := by
        rw [Format.underflow, ← zpow_one_add₀ two.ne']
        congr 1
        ring
      have least : min f.top (0 * 2 ^ f.fractionBits +
          roundEven (num * 2 ^ (-f.minExponent).toNat) (den * 2 ^ f.minExponent.toNat)) = 0 ↔
          2 * (num * 2 ^ (-f.minExponent).toNat) ≤ den * 2 ^ f.minExponent.toNat := by
        rw [← roundEven_eq_zero_iff (Nat.mul_pos positive (Nat.two_pow_pos _))]
        omega
      have ratio := mul_pow_neg_le_mul_pow two f.minExponent (2 * num) den
      rw [max_eq_left low, Int.sub_self, Int.toNat_zero, least, ← Nat.mul_assoc]
      rw [half, mul_left_comm, mul_le_mul_iff_right₀ two] at ratio
      rw [← ratio]
      exact_mod_cast Iff.rfl
    · -- Above it the ratio is too large and the exponent is not the least one.
      rw [max_eq_right (by omega)]
      have place : 0 < (floorLog2 num den - f.fractionBits - f.minExponent).toNat *
          2 ^ f.fractionBits := Nat.mul_pos (by omega) (Nat.two_pow_pos _)
      refine iff_of_false (by omega) (not_le.mpr ?_)
      refine lt_of_lt_of_le (mul_lt_mul_of_pos_left ?_ unit) log
      exact zpow_lt_zpow_right₀ (by decide) (by omega)

end Binary

theorem lt_pow_length (n : Nat) : n < 10 ^ (decimalDigits n).length := by
  have bound := numeral_lt (all_isDigit_decimalDigits n)
  rwa [numeral_decimalDigits] at bound

theorem pow_length_le {n : Nat} (some : n ≠ 0) : 10 ^ ((decimalDigits n).length - 1) ≤ n := by
  by_contra short
  rcases Nat.eq_zero_or_pos ((decimalDigits n).length - 1) with one | more
  · rw [one] at short
    omega
  · have long := Nat.toDigits_length 10 n _ more (Nat.lt_of_not_le short)
    unfold decimalDigits at more long
    omega

namespace Binary

@[simp] theorem ofDecimal_negative {f : Format} (negative : Bool) (n : Nat) (e : Int) :
    (ofDecimal negative n e : Binary f).negative = negative := by
  unfold ofDecimal
  dsimp only
  repeat' split
  all_goals rfl

theorem ofDecimal_eq_zero_iff (negative : Bool) (n : Nat) (e : Int) :
    (ofDecimal negative n e : Binary64) = zero negative ↔
      (n : Rat) * 10 ^ e ≤ Format.double.underflow := by
  have ten : (0 : Rat) < 10 := by decide
  have top : 0 < Format.double.top := by decide
  have bound : ((2 ^ Format.double.exponentBits : Nat) : Int) = 2048 := by decide
  have least : Format.double.minExponent - 1 = -1075 := by decide
  unfold ofDecimal
  dsimp only
  rw [bound]
  split
  · next none =>
    rw [none, Nat.cast_zero, zero_mul]
    exact iff_of_true rfl (underflow_pos _).le
  · next some =>
    have low : (10 : Rat) ^ (((decimalDigits n).length : Int) - 1) ≤ n := by
      have size := List.length_pos_of_ne_nil (decimalDigits_ne_nil n)
      have place : ((decimalDigits n).length : Int) - 1 = ((decimalDigits n).length - 1 : Nat) := by
        omega
      rw [place, zpow_natCast]
      exact_mod_cast pow_length_le some
    have high : (n : Rat) ≤ 10 ^ ((decimalDigits n).length : Int) := by
      rw [zpow_natCast]
      exact_mod_cast (lt_pow_length n).le
    split
    · next large =>
      -- What is not rounded because it is so large is at least one.
      refine iff_of_false (by simp [infinity, zero, top.ne']) (not_le.mpr ?_)
      calc Format.double.underflow < 1 := by
            rw [Format.underflow, least]
            exact zpow_lt_one_of_neg₀ (by decide) (by decide)
        _ ≤ 10 ^ (((decimalDigits n).length : Int) - 1 + e) :=
            one_le_zpow₀ (by decide) (by omega)
        _ = 10 ^ (((decimalDigits n).length : Int) - 1) * 10 ^ e := zpow_add₀ ten.ne' _ _
        _ ≤ n * 10 ^ e := mul_le_mul_of_nonneg_right low (zpow_nonneg ten.le _)
    · split
      · next tiny =>
        refine iff_of_true rfl ?_
        calc (n : Rat) * 10 ^ e
            ≤ 10 ^ ((decimalDigits n).length : Int) * 10 ^ e :=
              mul_le_mul_of_nonneg_right high (zpow_nonneg ten.le _)
          _ = 10 ^ (((decimalDigits n).length : Int) + e) := (zpow_add₀ ten.ne' _ _).symm
          _ ≤ 10 ^ (-1075 : Int) := zpow_le_zpow_right₀ (by decide) (by omega)
          _ ≤ Format.double.underflow := by
              rw [Format.underflow, least, zpow_neg, zpow_neg]
              exact inv_anti₀ (zpow_pos (by decide) _)
                (zpow_le_zpow_left₀ (by decide) (by decide) (by decide))
      · have ratio := encode_eq_zero_iff top (n * 10 ^ e.toNat)
          (Nat.pow_pos (n := (-e).toNat) (by decide : 0 < 10))
        rw [ofRatio, zero, Binary.mk.injEq, and_iff_right rfl, ratio,
          ← mul_pow_le_mul_pow_neg ten, mul_comm Format.double.underflow]
        push_cast
        exact Iff.rfl

end Binary
end DocPath
