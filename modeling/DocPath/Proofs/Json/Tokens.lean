import DocPath.Json.Reader
import DocPath.Json.Basic
import DocPath.Proofs.Number.Token
import DocPath.Proofs.Reader.Outcome

/-!
Strings and numbers of documents. A string is read back from between the quotes it was written in,
whatever its characters, and a whole number from its digits.
-/

namespace DocPath.Json

open Reader (Ends)

variable {rest : List Char}

theorem split_run {g : Char → Bool} {cs : List Char} (all : cs.all g) (stop : Ends g rest) :
    (cs ++ rest).takeWhile g = cs ∧ (cs ++ rest).dropWhile g = rest := by
  have run := Reader.takeWhile_append all stop
  simp only [Reader.takeWhile, Outcome.done.injEq] at run
  exact run

theorem hexValue?_hexDigit {n : Nat} (small : n < 16) : hexValue? (hexDigit n) = some n := by
  have all : ∀ n < 16, hexValue? (hexDigit n) = some n := by decide
  exact all n small

theorem unicodeEscape_control {c : Char} (control : c.toNat < 32) :
    unicodeEscape ('0' :: '0' :: hexDigit (c.toNat / 16) :: hexDigit (c.toNat % 16) :: rest) =
      some (c, rest) := by
  have high := hexValue?_hexDigit (n := c.toNat / 16) (by omega)
  have low := hexValue?_hexDigit (n := c.toNat % 16) (by omega)
  have zero : hexValue? '0' = some 0 := rfl
  have number : ((0 * 16 + 0) * 16 + c.toNat / 16) * 16 + c.toNat % 16 = c.toNat := by omega
  have pair : (0xD800 ≤ c.toNat && c.toNat < 0xDC00) = false := by simp; omega
  have half : (0xDC00 ≤ c.toNat && c.toNat < 0xE000) = false := by simp; omega
  simp only [unicodeEscape, hex4, high, low, zero, number, pair, half, bind, Option.bind,
    Bool.false_eq_true, if_false, Char.ofNat_toNat]

theorem stringBody_escape (n : Nat) (acc : List Char) (c : Char) :
    stringBody (n + 1) acc (escape c ++ rest) = stringBody n (c :: acc) rest := by
  unfold escape
  repeat' split
  all_goals first
    | next same => subst same; rfl
    | skip
  · next control =>
    have start : ('\\' : Char) ≠ '"' := by decide
    simp only [List.cons_append, List.nil_append, stringBody, start, if_false, if_true,
      unicodeEscape_control control]
  · next quote slash _ _ _ _ _ plain =>
    simp only [List.cons_append, List.nil_append, stringBody]
    rw [if_neg quote, if_neg slash, if_neg plain]

theorem stringBody_chars {n : Nat} {acc cs : List Char} (fuel : cs.length < n) :
    stringBody n acc (cs.flatMap escape ++ '"' :: rest) =
      some (String.ofList (acc.reverse ++ cs), rest) := by
  induction cs generalizing n acc with
  | nil =>
    obtain ⟨n, rfl⟩ : ∃ m, n = m + 1 := ⟨n - 1, by omega⟩
    simp [stringBody]
  | cons c cs ih =>
    obtain ⟨n, rfl⟩ : ∃ m, n = m + 1 := ⟨n - 1, by omega⟩
    rw [List.length_cons] at fuel
    rw [List.flatMap_cons, List.append_assoc, stringBody_escape, ih (by omega),
      List.reverse_cons, List.append_assoc, List.singleton_append]

theorem length_le_flatMap_escape (cs : List Char) : cs.length ≤ (cs.flatMap escape).length := by
  induction cs with
  | nil => exact Nat.le_refl 0
  | cons c cs ih =>
    have some : 0 < (escape c).length := by
      unfold escape
      repeat' split
      all_goals simp
    rw [List.flatMap_cons, List.length_append, List.length_cons]
    omega

theorem stringBody_quote {n : Nat} {s : String} (rest : List Char) (fuel : (quote s).length ≤ n) :
    ∃ body, quote s ++ rest = '"' :: body ∧ stringBody (n + 1) [] body = some (s, rest) := by
  have long := length_le_flatMap_escape s.toList
  rw [quote, List.length_cons, List.length_append, List.length_singleton] at fuel
  refine ⟨s.toList.flatMap escape ++ '"' :: rest, by simp [quote], ?_⟩
  rw [stringBody_chars (by omega), List.reverse_nil, List.nil_append, String.ofList_toList]

def isContinued (c : Char) : Bool := isDigit c || c = '.' || c = 'e' || c = 'E'

theorem fractionPart_none (stop : Ends isContinued rest) :
    fractionPart rest = some ([], rest) := by
  unfold fractionPart
  split
  · exact absurd (stop '.' rfl) (by decide)
  · rfl

theorem exponentPart_none (stop : Ends isContinued rest) :
    exponentPart rest = some ([], rest) := by
  unfold exponentPart
  split
  · next c cs =>
    have other : ¬(c = 'e' || c = 'E') := by
      intro mark
      have no := stop c rfl
      simp only [isContinued, Bool.or_eq_false_iff, decide_eq_false_iff_not] at no
      simp [no.1.2, no.2] at mark
    rw [if_neg other]
  · rfl

theorem wholePart_token (t : IntegerToken) (stop : Ends isContinued rest) :
    wholePart (t.digits ++ rest) = some (t.digits, rest) := by
  have apart : Ends isDigit rest := stop.mono fun c digit => by simp [isContinued, digit]
  obtain ⟨run, behind⟩ := split_run t.all_digits apart
  have full : t.digits.isEmpty = false := by simpa using t.digits_ne_nil
  unfold wholePart
  split
  · next cs start =>
    obtain ⟨d, ds, digits, -⟩ := t.digits_cons
    rw [digits, List.cons_append] at start
    obtain ⟨rfl, same⟩ := List.cons.inj start
    have alone := t.leading (by rw [digits]; rfl)
    rw [digits] at alone ⊢
    obtain ⟨-, rfl⟩ := List.cons.inj alone
    rw [← same, List.nil_append]
  · simp only [run, behind, full, Bool.false_eq_true, if_false]

/-- Texts of numbers: each starts like a number and is read to its end. -/
structure IsNumberText (t : String) : Prop where
  head : ∃ c cs, t.toList = c :: cs ∧ (c = '-' ∨ isDigit c)
  read : ∀ rest, Ends isContinued rest → numberText (t.toList ++ rest) = some (t, rest)

theorem isNumberText_token (t : IntegerToken) : IsNumberText t.text where
  head := by
    obtain ⟨d, ds, digits, digit⟩ := t.digits_cons
    rw [IntegerToken.toList_text]
    unfold IntegerToken.chars
    split
    · exact ⟨'-', t.digits, rfl, .inl rfl⟩
    · exact ⟨d, ds, digits, .inr digit⟩
  read rest stop := by
    have whole := wholePart_token t stop
    have fraction := fractionPart_none stop
    have exponent := exponentPart_none stop
    rw [IntegerToken.toList_text]
    unfold numberText IntegerToken.text IntegerToken.chars
    cases t.negative with
    | true =>
      simp only [if_true, List.cons_append, whole, fraction, exponent, bind, Option.bind,
        List.append_nil, List.nil_append]
    | false =>
      obtain ⟨d, ds, digits, digit⟩ := t.digits_cons
      have sign : d ≠ '-' := digit_ne digit (by decide)
      rw [digits, List.cons_append] at whole
      simp only [Bool.false_eq_true, if_false, digits, List.cons_append]
      split
      · next r start => exact absurd (List.cons.inj start).1 sign
      · simp only [whole, fraction, exponent, bind, Option.bind, List.append_nil, List.nil_append]

end DocPath.Json
