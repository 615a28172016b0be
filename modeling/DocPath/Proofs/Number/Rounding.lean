import Mathlib.Algebra.GroupWithZero.Nat
import DocPath.Binary.Basic

/-!
Doubles of whole numbers. From a power of two to the next one the doubles are evenly spaced, so the
double of a whole number is found by rounding to a multiple of the spacing there. At the limit of
decimals the spacing grows, and the numbers next to it on both sides have one double.
-/

namespace DocPath

open scoped NatPower

section RoundEven

variable {n d c : Nat}

theorem le_roundEven (positive : 0 < d) (below : c * d ≤ n) : c ≤ roundEven n d := by
  have whole : c ≤ n / d := (Nat.le_div_iff_mul_le positive).mpr below
  unfold roundEven
  dsimp only
  split <;> omega

theorem roundEven_le (positive : 0 < d) (above : n ≤ c * d) : roundEven n d ≤ c := by
  have parts := Nat.div_add_mod n d
  have whole : n / d ≤ c := Nat.div_le_of_le_mul (by rw [Nat.mul_comm]; exact above)
  have rest : n / d = c → n % d = 0 := by
    intro same
    rw [same, Nat.mul_comm] at parts
    omega
  unfold roundEven
  dsimp only
  split <;> omega

end RoundEven

namespace Binary

theorem floorLog2_whole {n : Nat} (positive : n ≠ 0) : floorLog2 n 1 = n.log2 := by
  have one : Nat.log2 1 = 0 := by decide
  have down : (-((n.log2 : Int) - (0 : Nat))).toNat = 0 := by omega
  have up : ((n.log2 : Int) - (0 : Nat)).toNat = n.log2 := by omega
  have low := Nat.log2_self_le positive
  unfold floorLog2
  simp only [one, down, up, Nat.pow_zero, Nat.mul_one, Nat.one_mul]
  rw [if_neg (Nat.not_lt.mpr low)]
  omega

theorem encode_le_top {f : Format} (num den : Nat) : f.encode num den ≤ f.top := by
  unfold Format.encode
  split
  · exact Nat.zero_le _
  · exact Nat.min_le_left _ _

section Whole

variable {n k : Nat}

theorem encode_whole (low : 2 ^ k ≤ n) (high : n < 2 ^ (k + 1)) :
    Format.double.encode n 1 =
      min (2047 * 2 ^ 52) ((k + 1022) * 2 ^ 52 + roundEven (n * 2 ^ (52 - k)) (2 ^ (k - 52))) := by
  have positive : n ≠ 0 := by
    have := Nat.two_pow_pos k
    omega
  have log : n.log2 = k := (Nat.log2_eq_iff positive).mpr ⟨low, high⟩
  have least : Format.double.minExponent = -1074 := by decide
  have width : ((Format.double.fractionBits : Nat) : Int) = 52 := rfl
  have exponent : max (-1074) ((k : Int) - 52) = (k : Int) - 52 := by omega
  have down : (-((k : Int) - 52)).toNat = 52 - k := by omega
  have up : ((k : Int) - 52).toNat = k - 52 := by omega
  have place : ((k : Int) - 52 - -1074).toNat = k + 1022 := by omega
  rw [Format.encode, if_neg positive]
  simp only [floorLog2_whole positive, log, least, width, exponent, down, up, place, Nat.one_mul]
  rfl

theorem encode_bounds (low : 2 ^ k ≤ n) (high : n < 2 ^ (k + 1)) :
    min (2047 * 2 ^ 52) ((k + 1023) * 2 ^ 52) ≤ Format.double.encode n 1 ∧
      Format.double.encode n 1 ≤ (k + 1024) * 2 ^ 52 := by
  -- One of the two differences is zero: the number is made longer, or the spacing wider.
  have scale : 2 ^ 52 * 2 ^ (k - 52) = 2 ^ k * 2 ^ (52 - k) := by
    rw [← Nat.pow_add, ← Nat.pow_add]
    congr 1
    omega
  have double : 2 ^ 53 * 2 ^ (k - 52) = 2 ^ (k + 1) * 2 ^ (52 - k) := by
    rw [Nat.pow_succ 2 52, Nat.pow_succ 2 k, Nat.mul_right_comm, scale, Nat.mul_right_comm]
  have least : 2 ^ 52 ≤ roundEven (n * 2 ^ (52 - k)) (2 ^ (k - 52)) := by
    refine le_roundEven (Nat.two_pow_pos _) ?_
    rw [scale]
    exact Nat.mul_le_mul_right _ low
  have most : roundEven (n * 2 ^ (52 - k)) (2 ^ (k - 52)) ≤ 2 ^ 53 := by
    refine roundEven_le (Nat.two_pow_pos _) ?_
    rw [double]
    exact Nat.mul_le_mul_right _ (Nat.le_of_lt high)
  rw [encode_whole low high]
  omega

theorem encode_lt_two_pow (high : n < 2 ^ k) : Format.double.encode n 1 ≤ (k + 1023) * 2 ^ 52 := by
  by_cases zero : n = 0
  · rw [zero, Format.encode, if_pos rfl]
    exact Nat.zero_le _
  · have bounds := (encode_bounds (Nat.log2_self_le zero) Nat.lt_log2_self).2
    have log : n.log2 < k := (Nat.log2_lt zero).mpr high
    exact Nat.le_trans bounds (Nat.mul_le_mul_right _ (by omega))

theorem le_encode (low : 2 ^ k ≤ n) :
    min (2047 * 2 ^ 52) ((k + 1023) * 2 ^ 52) ≤ Format.double.encode n 1 := by
  have positive : n ≠ 0 := by
    have := Nat.two_pow_pos k
    omega
  have bounds := (encode_bounds (Nat.log2_self_le positive) Nat.lt_log2_self).1
  have log : k ≤ n.log2 := (Nat.le_log2 positive).mpr low
  have step : (k + 1023) * 2 ^ 52 ≤ (n.log2 + 1023) * 2 ^ 52 :=
    Nat.mul_le_mul_right _ (Nat.add_le_add_right log _)
  exact Nat.le_trans (Nat.le_min.mpr ⟨Nat.min_le_left _ _,
    Nat.le_trans (Nat.min_le_right _ _) step⟩) bounds

theorem encode_below (inside : n < 2 ^ 96) :
    Format.double.encode n 1 ≤ 1119 * 2 ^ 52 ∧
      (Format.double.encode n 1 = 1119 * 2 ^ 52 ↔ 2 ^ 96 - 2 ^ 42 ≤ n) := by
  -- From here to the limit the spacing is `2 ^ 43`; below, no double is near it.
  by_cases low : 2 ^ 95 ≤ n
  · rw [encode_whole low inside, Nat.sub_eq_zero_of_le (by decide : 52 ≤ 95), Nat.pow_zero,
      Nat.mul_one]
    unfold roundEven
    dsimp only
    split <;> omega
  · have bound := encode_lt_two_pow (Nat.not_le.mp low)
    omega

theorem encode_beyond (beyond : 2 ^ 96 ≤ n) :
    1119 * 2 ^ 52 ≤ Format.double.encode n 1 ∧
      (Format.double.encode n 1 = 1119 * 2 ^ 52 ↔ n ≤ 2 ^ 96 + 2 ^ 43) := by
  -- From the limit on the spacing is `2 ^ 44`.
  by_cases high : n < 2 ^ 97
  · rw [encode_whole beyond high, Nat.sub_eq_zero_of_le (by decide : 52 ≤ 96), Nat.pow_zero,
      Nat.mul_one]
    unfold roundEven
    dsimp only
    split <;> omega
  · have bound := le_encode (Nat.not_lt.mp high)
    omega

theorem encode_top (high : 1024 ≤ k) (low : 2 ^ k ≤ n) :
    Format.double.encode n 1 = Format.double.top := by
  have top : Format.double.top = 2047 * 2 ^ 52 := by decide
  have step : 2047 * 2 ^ 52 ≤ (k + 1023) * 2 ^ 52 :=
    Nat.mul_le_mul_right _ (by omega)
  have least := Nat.le_trans (Nat.le_min.mpr ⟨Nat.le_refl _, step⟩) (le_encode low)
  rw [← top] at least
  exact Nat.le_antisymm (encode_le_top n 1) least

end Whole

end Binary

end DocPath
