import DocPath.Proofs.Json.RoundTrip
import DocPath.Proofs.Number.Denotation

/-!
The numbers of documents that were read. Each of them is the text of a token, however deep it stands
in the document.
-/

namespace DocPath.Json

variable {cs rest : List Char}

theorem wholePart_some {ds : List Char} (read : wholePart cs = some (ds, rest)) :
    ds.all isDigit ∧ ds ≠ [] ∧ (ds.head? = some '0' → ds = ['0']) := by
  unfold wholePart at read
  split at read
  · obtain ⟨rfl, -⟩ := Prod.mk.inj (Option.some.inj read)
    decide
  · next other =>
    dsimp only at read
    split at read
    · cases read
    · next some =>
      obtain ⟨rfl, -⟩ := Prod.mk.inj (Option.some.inj read)
      refine ⟨List.all_takeWhile, by simpa using some, fun zero => ?_⟩
      cases cs with
      | nil => cases zero
      | cons c cs =>
        rw [List.takeWhile_cons] at zero
        split at zero
        · rw [Option.some.inj zero] at other
          exact absurd rfl (other cs)
        · cases zero

theorem fractionPart_some {fs : List Char} (read : fractionPart cs = some (fs, rest)) :
    ∃ ds : List Char, ds.all isDigit ∧ fs = if ds = [] then [] else '.' :: ds := by
  unfold fractionPart at read
  split at read
  · dsimp only at read
    split at read
    · cases read
    · next some =>
      obtain ⟨rfl, -⟩ := Prod.mk.inj (Option.some.inj read)
      exact ⟨_, List.all_takeWhile, (if_neg (by simpa using some)).symm⟩
  · obtain ⟨rfl, -⟩ := Prod.mk.inj (Option.some.inj read)
    exact ⟨[], rfl, rfl⟩

theorem exponentPart_some {es : List Char} (read : exponentPart cs = some (es, rest)) :
    ∃ e : Option Exponent, es = (e.map Exponent.chars).getD [] := by
  have signed (sign : Char) (signs : sign = '+' ∨ sign = '-') (cs : List Char)
      (read : (if (cs.takeWhile isDigit).isEmpty then none
        else some ('e' :: sign :: cs.takeWhile isDigit, cs.dropWhile isDigit)) =
          some (es, rest)) :
      ∃ e : Option Exponent, es = (e.map Exponent.chars).getD [] := by
    split at read
    · cases read
    · next full =>
      obtain ⟨rfl, -⟩ := Prod.mk.inj (Option.some.inj read)
      let e : Exponent :=
        ⟨'e', [sign], cs.takeWhile isDigit, by decide, by simpa using signs, List.all_takeWhile,
          by simpa using full⟩
      exact ⟨some e, rfl⟩
  unfold exponentPart at read
  split at read
  · split at read
    · dsimp only at read
      split at read
      · exact signed '+' (.inl rfl) _ read
      · exact signed '-' (.inr rfl) _ read
      · exact signed '+' (.inl rfl) _ read
    · obtain ⟨rfl, -⟩ := Prod.mk.inj (Option.some.inj read)
      exact ⟨none, rfl⟩
  · obtain ⟨rfl, -⟩ := Prod.mk.inj (Option.some.inj read)
    exact ⟨none, rfl⟩

theorem token_of_parts (negative : Bool) {cs₁ cs₂ cs₃ whole fraction exponent : List Char}
    (read : wholePart cs = some (whole, cs₁)) (read' : fractionPart cs₁ = some (fraction, cs₂))
    (read'' : exponentPart cs₂ = some (exponent, cs₃)) :
    ∃ t : NumberToken, t.text = String.ofList
      ((if negative then ['-'] else []) ++ whole ++ fraction ++ exponent) := by
  obtain ⟨all, full, leading⟩ := wholePart_some read
  obtain ⟨ds, digits, rfl⟩ := fractionPart_some read'
  obtain ⟨e, rfl⟩ := exponentPart_some read''
  let t : IntegerToken := ⟨negative, whole, all, full, leading⟩
  have chars : t.chars = (if negative then ['-'] else []) ++ whole := by
    rw [IntegerToken.chars]
    cases negative <;> rfl
  rw [← chars]
  by_cases marked : ds ≠ [] ∨ e.isSome
  · exact ⟨.fraction ⟨t, ds, e, digits, marked⟩, rfl⟩
  · rw [not_or, not_not, Option.not_isSome_iff_eq_none] at marked
    obtain ⟨rfl, rfl⟩ := marked
    refine ⟨.whole t, ?_⟩
    rw [if_pos rfl, List.append_nil]
    exact congrArg String.ofList (List.append_nil _).symm

theorem numberText_some {t : String} (read : numberText cs = some (t, rest)) :
    ∃ token : NumberToken, token.text = t := by
  unfold numberText at read
  dsimp only at read
  split at read
  all_goals
    obtain ⟨⟨whole, cs₁⟩, read₁, read⟩ := Option.bind_eq_some_iff.mp read
    obtain ⟨⟨fraction, cs₂⟩, read₂, read⟩ := Option.bind_eq_some_iff.mp read
    obtain ⟨⟨exponent, cs₃⟩, read₃, read⟩ := Option.bind_eq_some_iff.mp read
    obtain ⟨rfl, -⟩ := Prod.mk.inj (Option.some.inj read)
  · exact token_of_parts true read₁ read₂ read₃
  · exact token_of_parts false read₁ read₂ read₃

variable {P : String → Prop}

theorem allNumbersOfItems_iff {js : List Json} :
    AllNumbersOfItems P js ↔ ∀ j ∈ js, j.AllNumbers P := by
  induction js with
  | nil => simp [AllNumbersOfItems]
  | cons j js ih => rw [AllNumbersOfItems, ih, List.forall_mem_cons]

theorem allNumbersOfFields_iff {fs : List (String × Json)} :
    AllNumbersOfFields P fs ↔ ∀ f ∈ fs, f.2.AllNumbers P := by
  induction fs with
  | nil => simp [AllNumbersOfFields]
  | cons f fs ih =>
    obtain ⟨key, j⟩ := f
    rw [AllNumbersOfFields, ih, List.forall_mem_cons]

theorem value_allNumbers {n : Nat} (sound : ∀ cs t rest, numberText cs = some (t, rest) → P t) :
    ∀ {depth : Nat} {cs rest : List Char} {j : Json},
      value n depth cs = some (j, rest) → j.AllNumbers P := by
  intro depth
  induction depth with
  | zero =>
    intro cs rest j read
    cases read
  | succ depth ih =>
    intro cs rest j read
    rw [value] at read
    split at read
    case h_5 =>
      split at read
      · cases read
      · obtain ⟨⟨js, r⟩, inside, same⟩ := Option.map_eq_some_iff.mp read
        obtain ⟨rfl, -⟩ := Prod.mk.inj same
        rw [AllNumbers, allNumbersOfItems_iff]
        exact items_all (fun _ _ _ => ih) (List.forall_mem_nil _) inside
    case h_6 =>
      split at read
      · cases read
      · obtain ⟨⟨fs, r⟩, inside, same⟩ := Option.map_eq_some_iff.mp read
        obtain ⟨rfl, -⟩ := Prod.mk.inj same
        have all := fields_all (P := AllNumbers P) (fun _ _ _ => ih) (List.forall_mem_nil _) inside
        rw [AllNumbers, allNumbersOfFields_iff]
        exact fun f mem => all f ((entriesOf_spec fs).2 f mem)
    case h_7 =>
      obtain ⟨⟨t, r⟩, number, same⟩ := Option.map_eq_some_iff.mp read
      obtain ⟨rfl, -⟩ := Prod.mk.inj same
      exact sound _ _ _ number
    -- The other documents hold no numbers.
    all_goals
      obtain ⟨⟨_, r⟩, -, same⟩ := Option.map_eq_some_iff.mp read
      obtain ⟨rfl, -⟩ := Prod.mk.inj same
      exact trivial

theorem allNumbers_of_read? {text : String} {j : Json} (read : read? text = some j) :
    j.AllNumbers fun t => ∃ token : NumberToken, token.text = t := by
  rw [read?, readChars?] at read
  split at read
  · next whole =>
    split at read
    · obtain rfl := Option.some.inj read
      exact value_allNumbers (fun _ _ _ => numberText_some) whole
    · cases read
  · cases read

end DocPath.Json
