import DocPath.Proofs.Number.BinaryText
import DocPath.Proofs.Number.Underflow

/-!
The number that the shortest digits stand for. They are searched in the interval of what is rounded
to a binary number, whose lower end is at least half of the least positive number; so the digits of
a single are never taken for zero when they are read as a double.
-/

namespace DocPath

open scoped NatPower

namespace Digits

def value (d : Digits) : Rat := d.digits * (10 : Rat) ^ d.exponent

theorem strip_go_value (k : Nat) (d : Digits) : (strip.go k d).value = d.value := by
  induction k generalizing d with
  | zero => rfl
  | succ k ih =>
    rw [strip.go]
    split
    · next zero =>
      have tenth : (d.digits : Rat) = (d.digits / 10 : Nat) * 10 := by
        have whole : d.digits = d.digits / 10 * 10 := by omega
        exact_mod_cast whole
      rw [ih, value, value, tenth, mul_assoc, zpow_add_one₀ (by decide), mul_comm (10 : Rat)]
    · rfl

theorem strip_value (d : Digits) : d.strip.value = d.value := strip_go_value _ d

theorem value_eq (d : Digits) :
    ((d.digits * 10 ^ d.exponent.toNat : Nat) : Rat) *
      10 ^ (-((-d.exponent).toNat : Int)) = d.value := by
  have ten : (0 : Rat) < 10 := by decide
  push_cast
  rw [value, mul_assoc, ← zpow_natCast, ← zpow_add₀ ten.ne']
  congr 2
  omega

end Digits

namespace Binary

variable {f : Format}

theorem significand_pos {x : Binary f} (some : x.magnitude ≠ 0) : 0 < x.significand := by
  have unit := Nat.two_pow_pos f.fractionBits
  unfold significand
  split <;> omega

theorem minExponent_le_exponent (x : Binary f) : f.minExponent ≤ x.exponent := by
  unfold exponent
  omega

theorem le_value_of_grid {a c : Nat} {q e : Int}
    (above : a * 2 ^ q.toNat * 10 ^ (-e).toNat ≤ c * 10 ^ e.toNat * 2 ^ (-q).toNat) :
    (a : Rat) * 2 ^ q ≤ (⟨c, e⟩ : Digits).value := by
  have ratio : ((a * 2 ^ q.toNat * 10 ^ (-e).toNat : Nat) : Rat) ≤
      (c * 10 ^ e.toNat * 2 ^ (-q).toNat : Nat) := by
    exact_mod_cast above
  push_cast at ratio
  rw [mul_right_comm, mul_pow_le_mul_pow_neg (by decide), mul_right_comm,
    mul_pow_neg_le_mul_pow (by decide)] at ratio
  exact ratio

/-- The shortest digits of a number other than zero are above what is rounded to zero. -/
theorem underflow_le_shortest {x : Binary f} (some : x.magnitude ≠ 0) (tie : Tie) :
    f.underflow ≤ (x.shortest tie).value := by
  have positive := significand_pos some
  have least := minExponent_le_exponent x
  have floor : f.underflow ≤ 2 * 2 ^ (x.exponent - 2) := by
    rw [Format.underflow, ← zpow_one_add₀ (by decide)]
    exact zpow_le_zpow_right₀ (by decide) (by omega)
  unfold shortest
  extract_lets m q shift den lowGap value low high closed order candidate exact
  -- Digits in the interval are above its lower end.
  have inside {c : Nat} {e : Int} (above : low * 10 ^ (-e).toNat ≤ c * 10 ^ e.toNat * den) :
      f.underflow ≤ (⟨c, e⟩ : Digits).value := by
    have gap : 2 ≤ 4 * m - lowGap := by
      have wide : lowGap ≤ 2 := by
        unfold lowGap
        split <;> decide
      omega
    have enough : (2 : Rat) ≤ (4 * m - lowGap : Nat) := by exact_mod_cast gap
    calc f.underflow ≤ 2 * 2 ^ q := floor
      _ ≤ (4 * m - lowGap : Nat) * 2 ^ q :=
        mul_le_mul_of_nonneg_right enough (zpow_nonneg (by decide) _)
      _ ≤ (⟨c, e⟩ : Digits).value := le_value_of_grid above
  rw [Digits.strip_value]
  cases found : (List.range 17).findSome? fun n => candidate (n + 1) with
  | none =>
    calc f.underflow ≤ 2 ^ x.exponent := zpow_le_zpow_right₀ (by decide) (by omega)
      _ ≤ 2 ^ (x.exponent.toNat : Int) := zpow_le_zpow_right₀ (by decide) (by omega)
      _ = (2 ^ x.exponent.toNat : Nat) := by rw [zpow_natCast, Nat.cast_pow, Nat.cast_ofNat]
      _ ≤ (x.significand * 2 ^ x.exponent.toNat : Nat) := by
        exact_mod_cast Nat.le_mul_of_pos_left _ positive
      _ = exact.value := (mul_one _).symm
  | some d =>
    obtain ⟨n, -, here⟩ := List.exists_of_findSome?_eq_some found
    rw [Option.getD_some]
    unfold candidate at here
    extract_lets e up down scaled grid within c below above upper at here
    have hit {c : Nat} (sure : within c) : f.underflow ≤ (⟨c, e⟩ : Digits).value := by
      refine inside ?_
      unfold within at sure
      split at sure
      · exact (of_decide_eq_true sure).1
      · exact (of_decide_eq_true sure).1.le
    split at here
    · next both =>
      rw [Bool.and_eq_true] at both
      obtain rfl := Option.some.inj here
      cases upper with
      | false => exact hit both.1
      | true => exact hit both.2
    · split at here
      · next lower =>
        obtain rfl := Option.some.inj here
        exact hit lower
      · split at here
        · next higher =>
          obtain rfl := Option.some.inj here
          exact hit higher
        · cases here

theorem written_value_le_iff (x : Binary32) :
    x.written.value ≤ Format.double.underflow ↔ x.magnitude = 0 := by
  unfold written
  split
  · next none =>
    refine iff_of_true ?_ none
    rw [Digits.value, Nat.cast_zero, zero_mul]
    exact (underflow_pos _).le
  · next some =>
    have range : Format.double.underflow < Format.single.underflow :=
      zpow_lt_zpow_right₀ (by decide) (by decide)
    exact iff_of_false (not_le.mpr (lt_of_lt_of_le range (underflow_le_shortest some .up))) some

theorem widen_eq_zero_iff {x : Binary32} (finite : x.isFinite) (negative : Bool) :
    Number.widen x = zero negative ↔ x = zero negative := by
  obtain ⟨sign, magnitude⟩ := x
  rw [Number.widen, read?_toText finite, Option.getD_some]
  by_cases same : sign = negative
  · subst same
    rw [ofDecimal_eq_zero_iff, Digits.value_eq, written_value_le_iff, zero, Binary.mk.injEq,
      and_iff_right rfl]
  · refine iff_of_false (fun zeros => same ?_) fun zeros => same (congrArg Binary.negative zeros)
    have signs := congrArg Binary.negative zeros
    rwa [ofDecimal_negative] at signs

end Binary
end DocPath
