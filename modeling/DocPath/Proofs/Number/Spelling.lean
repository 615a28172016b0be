import DocPath.Number.Basic
import DocPath.Proofs.Number.BinaryText
import DocPath.Proofs.Text.Marks

/-!
The marks of the texts of numbers: at most one point, after a digit, and an end that shows that a
number ended. No number is written with an exponent.
-/

namespace DocPath

def IsUnpointed (cs : List Char) : Prop := ∀ tail, marks tail cs = 0 ∧ tailOf tail cs = true

def IsPointed (cs : List Char) : Prop :=
  '.' ∈ cs ∧ ∀ tail, marks tail cs = 1 ∧ tailOf tail cs = true

theorem isUnpointed_digits {ds : List Char} (digits : ds.all isDigit) (some : ds ≠ []) :
    IsUnpointed ds := fun tail => ⟨marks_digits digits tail, tailOf_digits digits some tail⟩

theorem IsUnpointed.point {cs fs : List Char} (h : IsUnpointed cs) (digits : fs.all isDigit)
    (some : fs ≠ []) : IsPointed (cs ++ '.' :: fs) := by
  refine ⟨by simp, fun tail => ⟨?_, ?_⟩⟩
  · have one : mark true '.' = 1 := rfl
    rw [marks_append, (h tail).1, (h tail).2, marks, one, marks_digits digits]
  · rw [tailOf_append, tailOf, tailOf_digits digits some]

theorem IsUnpointed.negative {cs : List Char} (h : IsUnpointed cs) : IsUnpointed ('-' :: cs) :=
  fun _ => ⟨(Nat.zero_add _).trans (h false).1, (h false).2⟩

theorem IsPointed.negative {cs : List Char} (h : IsPointed cs) : IsPointed ('-' :: cs) :=
  ⟨List.mem_cons_of_mem _ h.1, fun _ => ⟨(Nat.zero_add _).trans (h.2 false).1, (h.2 false).2⟩⟩

theorem isUnpointed_integerChars (n : Int) : IsUnpointed (integerChars n) := by
  have digits := isUnpointed_digits (all_isDigit_decimalDigits n.natAbs)
    (decimalDigits_ne_nil n.natAbs)
  unfold integerChars
  split
  · exact digits.negative
  · exact digits

theorem Decimal.isUnpointed_toText {d : Decimal} (sign : d.negative = false)
    (places : d.scale = 0) : IsUnpointed d.toText.toList := by
  rw [(toText_whole sign places).1]
  exact isUnpointed_digits (all_isDigit_decimalDigits _) (decimalDigits_ne_nil _)

theorem Decimal.isPointed_toText {d : Decimal} (sign : d.negative = false)
    (places : 0 < d.scale) : IsPointed d.toText.toList := by
  obtain ⟨ds, fs, text, digits, full, fraction, some, -⟩ := toText_fraction sign places
  rw [text]
  exact (isUnpointed_digits digits full).point fraction some

theorem Digits.plain_spelled (d : Digits) : IsUnpointed d.plain ∨ IsPointed d.plain := by
  obtain ⟨ds, fs, plain, digits, full, fraction, -⟩ := d.plain_parts
  rw [plain]
  split
  · rw [List.append_nil]
    exact .inl (isUnpointed_digits digits full)
  · next some => exact .inr ((isUnpointed_digits digits full).point fraction some)

namespace Binary

variable {f : Format}

theorem toText_spelled (x : Binary f) :
    IsUnpointed x.toText.toList ∨ IsPointed x.toText.toList := by
  have signed (cs : List Char) (h : IsUnpointed cs ∨ IsPointed cs) :
      IsUnpointed ((if x.negative then "-" else "") ++ String.ofList cs).toList ∨
        IsPointed ((if x.negative then "-" else "") ++ String.ofList cs).toList := by
    rw [String.toList_append, String.toList_ofList]
    cases x.negative with
    | false => exact h
    | true => exact h.imp IsUnpointed.negative IsPointed.negative
  have word (cs : List Char) (h : ∀ tail, marks tail cs = 0 ∧ tailOf tail cs = true) :
      IsUnpointed cs := h
  unfold toText
  split
  · exact .inl (word _ (by decide))
  · simp only
    split
    · exact signed ['i', 'n', 'f'] (.inl (word _ (by decide)))
    · split
      · exact signed ['0'] (.inl (word _ (by decide)))
      · exact signed _ (x.shortest .up).plain_spelled

end Binary

namespace Number

theorem binaryText_spelled {f : Binary.Format} (x : Binary f) :
    IsUnpointed (binaryText x).toList ∨ IsPointed (binaryText x).toList := by
  unfold binaryText
  simp only
  split
  · next whole =>
    rcases x.toText_spelled with plain | pointed
    · refine .inr ?_
      have zero : ['0'].all isDigit := by decide
      rw [String.toList_append]
      exact plain.point zero (by decide)
    · have point : x.toText.toList.contains '.' := by simpa using pointed.1
      simp only [point, Bool.not_true, Bool.and_false] at whole
      cases whole
  · exact x.toText_spelled

end Number

end DocPath
