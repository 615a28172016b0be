import DocPath.Proofs.Number.Ordering

/-!
Numbers that stand for themselves. Words and decimals are rational numbers, and whatever their
representations they are equal exactly if these are.
-/

namespace DocPath

open scoped NatPower

namespace Decimal

def toRat (d : Decimal) : Rat := mkRat d.signed (10 ^ d.scale)

theorem compare_eq_iff (a b : Decimal) : a.compare b = .eq ↔ a.toRat = b.toRat := by
  have unit (s : Nat) : 10 ^ s ≠ 0 := Nat.ne_of_gt (Nat.pow_pos (by decide))
  rw [Decimal.compare, Int.compare_eq_eq, toRat, toRat, Rat.mkRat_eq_iff (unit _) (unit _)]
  simp only [Int.natCast_pow, Int.cast_ofNat_Int]

theorem signed_ofInt64 (n : Int64) : (ofInt64 n).signed = n.toInt := by
  simp only [signed, ofInt64, decide_eq_true_eq]
  split <;> omega

theorem toRat_ofInt64 (n : Int64) : (ofInt64 n).toRat = n.toInt := by
  rw [toRat, signed_ofInt64]
  exact Rat.mkRat_one n.toInt

end Decimal

namespace Number

/-- The number that a word or a decimal stands for; the others are rounded or kept as text. -/
def rational? : Number → Option Rat
  | .int n => some n.toInt
  | .long n => some n.toInt
  | .bigInteger d | .bigDecimal d => some d.toRat
  | .float _ | .double _ | .exact _ => none

theorem toDecimal?_of_rational {n : Number} {q : Rat} (stands : n.rational? = some q) :
    n.isBinary = false ∧ ∃ d, n.toDecimal? = some d ∧ d.toRat = q := by
  cases n with
  | int n =>
    cases stands
    exact ⟨rfl, _, rfl, by rw [Decimal.toRat_ofInt64, Int32.toInt_toInt64]⟩
  | long n =>
    cases stands
    exact ⟨rfl, _, rfl, Decimal.toRat_ofInt64 n⟩
  | bigInteger d | bigDecimal d =>
    cases stands
    exact ⟨rfl, d, rfl, rfl⟩
  | float | double | exact => cases stands

theorem numEq_iff {m n : Number} {q r : Rat} (stands : m.rational? = some q)
    (stands' : n.rational? = some r) : m.numEq n ↔ q = r := by
  obtain ⟨binary, d, decimal, rfl⟩ := toDecimal?_of_rational stands
  obtain ⟨binary', e, decimal', rfl⟩ := toDecimal?_of_rational stands'
  rw [numEq, beq_iff_eq, compare_eq_byValue (.inl (by simp [decimal])), compareByValue, binary,
    binary', decimal, decimal', ← Decimal.compare_eq_iff]
  rfl

end Number
end DocPath
