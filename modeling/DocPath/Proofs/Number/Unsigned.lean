import DocPath.Proofs.Number.Literal

/-!
Numbers read from texts without a sign. Each has a form that literals denote, whole numbers in
the narrowest one.
-/

namespace DocPath

open scoped NatPower

namespace Decimal

theorem ofUnsignedZero?_some {negative : Bool} {n scale : Nat} {d : Decimal}
    (h : ofUnsignedZero? negative n scale = some d) :
    d.negative = (negative && n != 0) ∧ d.coefficient = n ∧ d.scale = scale := by
  unfold ofUnsignedZero? ofParts? at h
  split at h
  · cases h
    exact ⟨rfl, rfl, rfl⟩
  · cases h

theorem Reading.round?_unsigned {r : Reading} {c : Char} {d : Decimal}
    (h : r.round? false c = some d) : d.negative = false := by
  unfold Reading.round? at h
  obtain ⟨digit, -, rounded⟩ := Option.bind_eq_some_iff.mp h
  generalize (if 5 ≤ digit then r.coefficient + 1 else r.coefficient) = m at rounded
  simp only at rounded
  split at rounded
  · exact (ofUnsignedZero?_some rounded).1
  · split at rounded
    · cases rounded
    · exact (ofUnsignedZero?_some rounded).1

theorem Reading.read?_unsigned {r : Reading} {cs : List Char} {d : Decimal}
    (h : r.read? false cs = some d) : d.negative = false := by
  induction cs generalizing r with
  | nil =>
    rw [Reading.read?] at h
    split at h
    · exact (ofUnsignedZero?_some h).1
    · cases h
  | cons c cs ih =>
    rw [Reading.read?] at h
    split at h
    · exact round?_unsigned h
    · simp only at h
      repeat' split at h
      all_goals first
        | cases h
        | exact round?_unsigned h
        | exact ih h

theorem Reading.read?_whole {r : Reading} {ds : List Char} {d : Decimal} (all : ds.all isDigit)
    (whole : r.pointSeen = false) (h : r.read? false ds = some d) :
    d.coefficient = numeralFrom r.coefficient ds := by
  induction ds generalizing r with
  | nil =>
    rw [Reading.read?] at h
    split at h
    · exact (ofUnsignedZero?_some h).2.1
    · cases h
  | cons c cs ih =>
    simp only [List.all_cons, Bool.and_eq_true] at all
    rw [Reading.read?] at h
    simp only [whole, Bool.false_and, Bool.false_eq_true, if_false, all.1, if_true] at h
    split at h
    · exact ih all.2 rfl h
    · cases h

theorem read?_unsigned {c : Char} {cs : List Char} {d : Decimal} (digit : isDigit c)
    (plain : ∀ x ∈ c :: cs, isExponentMark x = false)
    (h : read? (String.ofList (c :: cs)) = some d) : d.negative = false := by
  have one : [c].all isDigit := by simp [digit]
  have run := readPlain?_digits one (by simp) cs
  rw [read?_plain plain] at h
  exact Reading.read?_unsigned (run.symm.trans h)

end Decimal

namespace Number

theorem ofIntegerText?_digits {ds : List Char} {n : Number} (all : ds.all isDigit) (some : ds ≠ [])
    (h : ofIntegerText? (String.ofList ds) = Option.some n) : n.isLiteral ∧ n.isWhole := by
  rw [ofIntegerText?, String.toList_ofList, readWord?_digits 32 all some,
    readWord?_digits 64 all some] at h
  by_cases narrow : numeral ds < 2 ^ (32 - 1)
  · rw [if_pos narrow] at h
    cases h
    have value : (Int32.ofInt (numeral ds)).toInt = numeral ds :=
      Int32.toInt_ofInt_of_le (by omega) (by omega)
    exact ⟨by simp [isLiteral, value], rfl⟩
  · rw [if_neg narrow] at h
    by_cases wide : numeral ds < 2 ^ (64 - 1)
    · rw [if_pos wide] at h
      cases h
      have value : (Int64.ofInt (numeral ds)).toInt = numeral ds :=
        Int64.toInt_ofInt_of_le (by omega) (by omega)
      refine ⟨?_, rfl⟩
      simp only [isLiteral, value, decide_eq_true_eq]
      omega
    · rw [if_neg wide] at h
      obtain ⟨d, kept, rfl⟩ := Option.map_eq_some_iff.mp h
      obtain ⟨read, scale⟩ := Option.filter_eq_some_iff.mp kept
      have plain : ∀ x ∈ ds, Decimal.isExponentMark x = false := fun x mem =>
        Decimal.isExponentMark_of_isDigit (List.all_eq_true.mp all x mem)
      rw [Decimal.read?_plain plain] at read
      have run := Decimal.readPlain?_digits all some []
      rw [List.append_nil] at run
      rw [run] at read
      have sign := Decimal.Reading.read?_unsigned read
      have value := Decimal.Reading.read?_whole all rfl read
      rw [numeralFrom_zero] at value
      refine ⟨?_, rfl⟩
      simp only [isLiteral, sign, value, Bool.not_false, Bool.true_and, Bool.and_eq_true,
        decide_eq_true_eq]
      exact ⟨scale, by omega⟩

end Number

end DocPath
