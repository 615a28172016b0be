import DocPath.Proofs.Entries
import DocPath.Proofs.Json.Tokens

/-!
Documents and the text that they are written as. A document that nests no deeper than readers go
and repeats no key is read back from its text over several lines; and every document that was read
is of this kind.
-/

namespace DocPath

open Reader (Ends)

namespace Json

mutual
/-- Arrays and objects nest less than `depth` deep, and no object has a key twice. -/
def Fits : Nat → Json → Prop
  | depth, .array js => 1 < depth ∧ ItemsFit (depth - 1) js
  | depth, .object fs => 1 < depth ∧ (fs.map Prod.fst).Nodup ∧ FieldsFit (depth - 1) fs
  | depth, _ => 0 < depth
def ItemsFit : Nat → List Json → Prop
  | _, [] => True
  | depth, j :: js => j.Fits depth ∧ ItemsFit depth js
def FieldsFit : Nat → List (String × Json) → Prop
  | _, [] => True
  | depth, (_, j) :: fs => j.Fits depth ∧ FieldsFit depth fs
end

mutual
def AllNumbers (P : String → Prop) : Json → Prop
  | .number t => P t
  | .array js => AllNumbersOfItems P js
  | .object fs => AllNumbersOfFields P fs
  | _ => True
def AllNumbersOfItems (P : String → Prop) : List Json → Prop
  | [] => True
  | j :: js => j.AllNumbers P ∧ AllNumbersOfItems P js
def AllNumbersOfFields (P : String → Prop) : List (String × Json) → Prop
  | [] => True
  | (_, j) :: fs => j.AllNumbers P ∧ AllNumbersOfFields P fs
end

variable {P Q : String → Prop}

mutual
theorem AllNumbers.mono (sub : ∀ t, P t → Q t) : ∀ {j : Json}, j.AllNumbers P → j.AllNumbers Q
  | .null, _ | .bool _, _ | .string _, _ => by simp only [AllNumbers]
  | .number t, h => by
    simp only [AllNumbers] at h ⊢
    exact sub t h
  | .array js, h => by
    simp only [AllNumbers] at h ⊢
    exact allNumbersOfItems_mono sub h
  | .object fs, h => by
    simp only [AllNumbers] at h ⊢
    exact allNumbersOfFields_mono sub h
theorem allNumbersOfItems_mono (sub : ∀ t, P t → Q t) :
    ∀ {js : List Json}, AllNumbersOfItems P js → AllNumbersOfItems Q js
  | [], _ => by simp only [AllNumbersOfItems]
  | j :: js, h => by
    simp only [AllNumbersOfItems] at h ⊢
    exact ⟨h.1.mono sub, allNumbersOfItems_mono sub h.2⟩
theorem allNumbersOfFields_mono (sub : ∀ t, P t → Q t) :
    ∀ {fs : List (String × Json)}, AllNumbersOfFields P fs → AllNumbersOfFields Q fs
  | [], _ => by simp only [AllNumbersOfFields]
  | (k, j) :: fs, h => by
    simp only [AllNumbersOfFields] at h ⊢
    exact ⟨h.1.mono sub, allNumbersOfFields_mono sub h.2⟩
end

theorem skipBlanks_head {c : Char} (solid : isBlank c = false) (cs : List Char) :
    skipBlanks (c :: cs) = c :: cs := by
  simp [skipBlanks, solid]

theorem skipBlanks_newline (depth : Nat) (cs : List Char) :
    skipBlanks (newline depth ++ cs) = skipBlanks cs := by
  have spaces : ∀ c ∈ List.replicate (2 * depth) ' ', isBlank c := by
    intro c mem
    rw [List.eq_of_mem_replicate mem]
    decide
  have line : isBlank '\n' := by decide
  rw [newline, List.cons_append, skipBlanks, List.dropWhile_cons, if_pos line,
    List.dropWhile_append_of_pos spaces, skipBlanks]

def isStart (c : Char) : Bool :=
  c = 'n' || c = 't' || c = 'f' || c = '"' || c = '[' || c = '{' || c = '-' || isDigit c

theorem isStart_solid {c : Char} (start : isStart c) : isBlank c = false ∧ c ≠ ']' := by
  have range : 0x22 ≤ c.toNat ∧ c.toNat ≠ 0x5D := by
    simp only [isStart, isDigit, Bool.or_eq_true, decide_eq_true_eq, Bool.and_eq_true] at start
    rcases start with ((((((h | h) | h) | h) | h) | h) | h) | h
    all_goals first
      | subst h; decide
      | omega
  refine ⟨?_, fun same => range.2 (by rw [same]; rfl)⟩
  cases blank : isBlank c with
  | false => rfl
  | true =>
    simp only [isBlank, Bool.or_eq_true, decide_eq_true_eq] at blank
    rcases blank with ((h | h) | h) | h <;> subst h <;> exact absurd range.1 (by decide)

theorem prettyChars_head (depth : Nat) {j : Json} (numbers : j.AllNumbers IsNumberText) :
    ∃ c cs, j.prettyChars depth = c :: cs ∧ isStart c := by
  cases j with
  | null => exact ⟨'n', "ull".toList, by simp [prettyChars], by decide⟩
  | bool b =>
    cases b with
    | false => exact ⟨'f', "alse".toList, by simp [prettyChars], by decide⟩
    | true => exact ⟨'t', "rue".toList, by simp [prettyChars], by decide⟩
  | number t =>
    simp only [AllNumbers] at numbers
    obtain ⟨c, cs, chars, start⟩ := numbers.head
    refine ⟨c, cs, by simp only [prettyChars, chars], ?_⟩
    rcases start with rfl | digit
    · decide
    · simp [isStart, digit]
  | string s => exact ⟨'"', _, by simp only [prettyChars, quote]; rfl, by decide⟩
  | array js =>
    simp only [prettyChars]
    split
    · exact ⟨'[', [']'], rfl, by decide⟩
    · exact ⟨'[', _, rfl, by decide⟩
  | object fs =>
    simp only [prettyChars]
    split
    · exact ⟨'{', ['}'], rfl, by decide⟩
    · exact ⟨'{', _, rfl, by decide⟩

/-- A reader that reads an item at every place where its text stands. -/
def Reads (item : Scan Json) (chars : List Char) (j : Json) : Prop :=
  ∀ rest, Ends isContinued rest → item (chars ++ rest) = some (j, rest)

theorem ends_newline (depth : Nat) (rest : List Char) : Ends isContinued (newline depth ++ rest) :=
  Ends.cons (by decide) _

theorem ends_comma (rest : List Char) : Ends isContinued (',' :: rest) := Ends.cons (by decide) _

section Lines

variable {item : Scan Json} {m k : Nat} {first : Bool} {j : Json} {rest : List Char}

def itemsBehind (item : Scan Json) (m : Nat) (acc : List Json) : Scan (List Json) := fun cs =>
  match skipBlanks cs with
  | ',' :: rest => items item m false acc rest
  | ']' :: rest => some (acc.reverse, rest)
  | _ => none

def fieldsBehind (item : Scan Json) (m : Nat) (acc : List (String × Json)) :
    Scan (List (String × Json)) := fun cs =>
  match skipBlanks cs with
  | ',' :: rest => fields item m false acc rest
  | '}' :: rest => some (acc.reverse, rest)
  | _ => none

theorem itemsBehind_comma (acc : List Json) :
    itemsBehind item m acc (',' :: rest) = items item m false acc rest := by
  have solid : isBlank ',' = false := by decide
  simp only [itemsBehind, skipBlanks_head solid]

theorem itemsBehind_newline (acc : List Json) :
    itemsBehind item m acc (newline k ++ ']' :: rest) = some (acc.reverse, rest) := by
  have solid : isBlank ']' = false := by decide
  simp only [itemsBehind, skipBlanks_newline, skipBlanks_head solid]

theorem fieldsBehind_comma (acc : List (String × Json)) :
    fieldsBehind item m acc (',' :: rest) = fields item m false acc rest := by
  have solid : isBlank ',' = false := by decide
  simp only [fieldsBehind, skipBlanks_head solid]

theorem fieldsBehind_newline (acc : List (String × Json)) :
    fieldsBehind item m acc (newline k ++ '}' :: rest) = some (acc.reverse, rest) := by
  have solid : isBlank '}' = false := by decide
  simp only [fieldsBehind, skipBlanks_newline, skipBlanks_head solid]

theorem items_step {acc : List Json} (numbers : j.AllNumbers IsNumberText)
    (read : Reads item (j.prettyChars k) j) (stop : Ends isContinued rest) :
    items item (m + 1) first acc (newline k ++ (j.prettyChars k ++ rest)) =
      itemsBehind item m (j :: acc) rest := by
  obtain ⟨c, cs, chars, start⟩ := prettyChars_head k numbers
  obtain ⟨solid, other⟩ := isStart_solid start
  have here : skipBlanks (newline k ++ (j.prettyChars k ++ rest)) = j.prettyChars k ++ rest := by
    rw [skipBlanks_newline, chars, List.cons_append, skipBlanks_head solid]
  rw [items, here]
  split
  · next r same =>
    rw [chars, List.cons_append] at same
    exact absurd (List.cons.inj same).1 other
  · simp only [read rest stop]
    rfl

theorem fields_step {acc : List (String × Json)} {key : String}
    (read : Reads item (' ' :: j.prettyChars k) j) (stop : Ends isContinued rest)
    (fuel : (quote key).length ≤ m) :
    fields item (m + 1) first acc
        (newline k ++ (quote key ++ ':' :: ' ' :: (j.prettyChars k ++ rest))) =
      fieldsBehind item m ((key, j) :: acc) rest := by
  obtain ⟨body, chars, string⟩ :=
    stringBody_quote (':' :: ' ' :: (j.prettyChars k ++ rest)) fuel
  have here : skipBlanks
      (newline k ++ (quote key ++ ':' :: ' ' :: (j.prettyChars k ++ rest))) = '"' :: body := by
    rw [skipBlanks_newline, chars, skipBlanks_head (by decide)]
  have value := read rest stop
  rw [List.cons_append] at value
  have colon : skipBlanks (':' :: ' ' :: (j.prettyChars k ++ rest)) =
      ':' :: ' ' :: (j.prettyChars k ++ rest) := skipBlanks_head (by decide) _
  simp only [fields, here, string, colon, value]
  rfl

end Lines

theorem value_blank (n depth : Nat) (cs : List Char) :
    value n depth (' ' :: cs) = value n depth cs := by
  have blank : skipBlanks (' ' :: cs) = skipBlanks cs := by simp [skipBlanks, isBlank]
  cases depth with
  | zero => rfl
  | succ depth => rw [value, value, blank]

theorem Reads.behind_blank {n depth : Nat} {cs : List Char} {j : Json}
    (read : Reads (value n depth) cs j) : Reads (value n depth) (' ' :: cs) j := by
  intro rest stop
  rw [List.cons_append, value_blank]
  exact read rest stop

theorem value_number {n depth : Nat} {t : String} (number : IsNumberText t) :
    Reads (value n (depth + 1)) t.toList (.number t) := by
  intro rest stop
  have read := number.read rest stop
  obtain ⟨c, cs, chars, start⟩ := number.head
  rw [chars, List.cons_append] at read ⊢
  have solid : isBlank c = false := by
    refine (isStart_solid ?_).1
    rcases start with rfl | digit
    · decide
    · simp [isStart, digit]
  have other (d : Char) (sign : d ≠ '-') (letter : isDigit d = false) : c ≠ d := by
    rcases start with rfl | digit
    · exact sign.symm
    · exact digit_ne digit letter
  rw [value, skipBlanks_head solid]
  split
  · next same => exact absurd (List.cons.inj same).1 (other 'n' (by decide) (by decide))
  · next same => exact absurd (List.cons.inj same).1 (other 't' (by decide) (by decide))
  · next same => exact absurd (List.cons.inj same).1 (other 'f' (by decide) (by decide))
  · next same => exact absurd (List.cons.inj same).1 (other '"' (by decide) (by decide))
  · next same => exact absurd (List.cons.inj same).1 (other '[' (by decide) (by decide))
  · next same => exact absurd (List.cons.inj same).1 (other '{' (by decide) (by decide))
  · rw [read, Option.map_some]

theorem value_string {n depth : Nat} {s : String} (fuel : (quote s).length ≤ n) :
    Reads (value n (depth + 1)) (quote s) (.string s) := by
  intro rest _
  obtain ⟨body, chars, string⟩ := stringBody_quote rest fuel
  rw [chars, value, skipBlanks_head (by decide)]
  simp only [string, Option.map_some]

theorem value_array {n depth : Nat} {js : List Json} {body rest : List Char} (deep : depth ≠ 0)
    (read : items (value n depth) (n + 1) true [] body = some (js, rest)) :
    value n (depth + 1) ('[' :: body) = some (.array js, rest) := by
  rw [value, skipBlanks_head (by decide)]
  simp only [if_neg deep, read, Option.map_some]

theorem value_object {n depth : Nat} {fs : List (String × Json)} {body rest : List Char}
    (deep : depth ≠ 0) (keys : (fs.map Prod.fst).Nodup)
    (read : fields (value n depth) (n + 1) true [] body = some (fs, rest)) :
    value n (depth + 1) ('{' :: body) = some (.object fs, rest) := by
  rw [value, skipBlanks_head (by decide)]
  simp only [if_neg deep, read, Option.map_some, entriesOf_of_nodup keys]

/-! A document, its items and its fields over several lines. The fuel of a reader is the length of
the whole text, so every part of it is short enough. -/

mutual
theorem value_pretty {n : Nat} : ∀ (j : Json) {depth k : Nat}, j.Fits depth →
    j.AllNumbers IsNumberText → (j.prettyChars k).length ≤ n →
    Reads (value n depth) (j.prettyChars k) j
  | .null, 0, _, fits, _, _ | .bool _, 0, _, fits, _, _ | .number _, 0, _, fits, _, _
  | .string _, 0, _, fits, _, _ | .array _, 0, _, fits, _, _ | .object _, 0, _, fits, _, _ => by
    simp only [Fits, Nat.not_lt_zero, false_and] at fits
  | .null, depth + 1, _, _, _, _ => fun rest _ => by
    simp only [prettyChars]
    rfl
  | .bool b, depth + 1, _, _, _, _ => fun rest _ => by
    simp only [prettyChars]
    cases b <;> rfl
  | .number t, depth + 1, _, _, numbers, _ => by
    simp only [AllNumbers] at numbers
    simp only [prettyChars]
    exact value_number numbers
  | .string s, depth + 1, _, _, _, short => by
    simp only [prettyChars] at short ⊢
    exact value_string short
  | .array js, depth + 1, k, fits, numbers, short => by
    simp only [Fits, Nat.add_sub_cancel] at fits
    simp only [AllNumbers] at numbers
    have deep : depth ≠ 0 := by omega
    intro rest stop
    simp only [prettyChars] at short ⊢
    split
    · next none =>
      rw [List.isEmpty_iff.mp none]
      exact value_array deep rfl
    · next some =>
      rw [if_neg some] at short
      have full : js ≠ [] := fun none => some (List.isEmpty_iff.mpr none)
      simp only [List.length_cons, List.length_append] at short
      have read := items_pretty (n := n) js (k := k + 1) (e := k) (m := n + 1) true [] rest full
        fits.2 numbers (by omega) (by omega)
      rw [List.cons_append, List.append_assoc, List.append_assoc]
      exact value_array deep read
  | .object fs, depth + 1, k, fits, numbers, short => by
    simp only [Fits, Nat.add_sub_cancel] at fits
    simp only [AllNumbers] at numbers
    have deep : depth ≠ 0 := by omega
    intro rest stop
    simp only [prettyChars] at short ⊢
    split
    · next none =>
      rw [List.isEmpty_iff.mp none]
      exact value_object deep List.nodup_nil rfl
    · next some =>
      rw [if_neg some] at short
      have full : fs ≠ [] := fun none => some (List.isEmpty_iff.mpr none)
      simp only [List.length_cons, List.length_append] at short
      have read := fields_pretty (n := n) fs (k := k + 1) (e := k) (m := n + 1) true [] rest full
        fits.2.2 numbers (by omega) (by omega)
      rw [List.cons_append, List.append_assoc, List.append_assoc]
      exact value_object deep fits.2.1 read
theorem items_pretty {n : Nat} : ∀ (js : List Json) {depth k e m : Nat} (first : Bool)
    (acc : List Json) (rest : List Char), js ≠ [] → ItemsFit depth js →
    AllNumbersOfItems IsNumberText js → (prettyItems k js).length ≤ n →
    (prettyItems k js).length < m →
    items (value n depth) m first acc (prettyItems k js ++ (newline e ++ ']' :: rest)) =
      some (acc.reverse ++ js, rest)
  | [], _, _, _, _, _, _, _, full, _, _, _, _ => absurd rfl full
  | _ :: _, _, _, _, 0, _, _, _, _, _, _, _, fuel => absurd fuel (Nat.not_lt_zero _)
  | [j], depth, k, e, m + 1, first, acc, rest, _, fits, numbers, short, _ => by
    simp only [ItemsFit] at fits
    simp only [AllNumbersOfItems] at numbers
    simp only [prettyItems, List.length_append] at short
    have read := value_pretty (n := n) j (k := k) fits.1 numbers.1 (by omega)
    simp only [prettyItems, List.append_assoc]
    rw [items_step numbers.1 read (ends_newline _ _), itemsBehind_newline, List.reverse_cons]
  | j :: i :: js, depth, k, e, m + 1, first, acc, rest, _, fits, numbers, short, fuel => by
    rw [ItemsFit] at fits
    rw [AllNumbersOfItems] at numbers
    simp only [prettyItems, List.length_append, List.length_cons] at short fuel
    have read := value_pretty (n := n) j (k := k) fits.1 numbers.1 (by omega)
    have others := items_pretty (n := n) (i :: js) (k := k) (e := e) (m := m) false (j :: acc) rest
      (List.cons_ne_nil _ _) fits.2 numbers.2 (by omega) (by omega)
    rw [prettyItems, List.append_assoc, List.append_assoc, List.cons_append,
      items_step numbers.1 read (ends_comma _), itemsBehind_comma, others, List.reverse_cons,
      List.append_assoc, List.singleton_append]
    exact List.cons_ne_nil _ _
theorem fields_pretty {n : Nat} : ∀ (fs : List (String × Json)) {depth k e m : Nat} (first : Bool)
    (acc : List (String × Json)) (rest : List Char), fs ≠ [] → FieldsFit depth fs →
    AllNumbersOfFields IsNumberText fs → (prettyFields k fs).length ≤ n →
    (prettyFields k fs).length < m →
    fields (value n depth) m first acc (prettyFields k fs ++ (newline e ++ '}' :: rest)) =
      some (acc.reverse ++ fs, rest)
  | [], _, _, _, _, _, _, _, full, _, _, _, _ => absurd rfl full
  | _ :: _, _, _, _, 0, _, _, _, _, _, _, _, fuel => absurd fuel (Nat.not_lt_zero _)
  | [(key, j)], depth, k, e, m + 1, first, acc, rest, _, fits, numbers, short, fuel => by
    simp only [FieldsFit] at fits
    simp only [AllNumbersOfFields] at numbers
    simp only [prettyFields, List.length_append, List.length_cons] at short fuel
    have read := (value_pretty (n := n) j (k := k) fits.1 numbers.1 (by omega)).behind_blank
    simp only [prettyFields, List.append_assoc, List.cons_append]
    rw [fields_step read (ends_newline _ _) (by omega), fieldsBehind_newline, List.reverse_cons]
  | (key, j) :: f :: fs, depth, k, e, m + 1, first, acc, rest, _, fits, numbers, short, fuel => by
    rw [FieldsFit] at fits
    rw [AllNumbersOfFields] at numbers
    simp only [prettyFields, List.length_append, List.length_cons] at short fuel
    have read := (value_pretty (n := n) j (k := k) fits.1 numbers.1 (by omega)).behind_blank
    have others := fields_pretty (n := n) (f :: fs) (k := k) (e := e) (m := m) false
      ((key, j) :: acc) rest (List.cons_ne_nil _ _) fits.2 numbers.2 (by omega) (by omega)
    rw [prettyFields]
    simp only [List.append_assoc, List.cons_append]
    · rw [fields_step read (ends_comma _) (by omega), fieldsBehind_comma, others,
        List.reverse_cons, List.append_assoc, List.singleton_append]
    · exact List.cons_ne_nil _ _
end

theorem read?_pretty {j : Json} (fits : j.Fits (maxDepth + 1))
    (numbers : j.AllNumbers IsNumberText) : read? j.pretty = some j := by
  have read := value_pretty j (k := 0) fits numbers (Nat.le_refl _) [] (Ends.nil _)
  rw [List.append_nil] at read
  simp only [read?, pretty, String.toList_ofList, readChars?, read]
  rfl

theorem itemsFit_iff {depth : Nat} {js : List Json} :
    ItemsFit depth js ↔ ∀ j ∈ js, j.Fits depth := by
  induction js with
  | nil => simp [ItemsFit]
  | cons j js ih => rw [ItemsFit, ih, List.forall_mem_cons]

theorem fieldsFit_iff {depth : Nat} {fs : List (String × Json)} :
    FieldsFit depth fs ↔ ∀ f ∈ fs, f.2.Fits depth := by
  induction fs with
  | nil => simp [FieldsFit]
  | cons f fs ih =>
    obtain ⟨key, j⟩ := f
    rw [FieldsFit, ih, List.forall_mem_cons]

section Read

variable {item : Scan Json} {P : Json → Prop} {n : Nat} {first : Bool} {cs rest : List Char}

theorem items_all (sound : ∀ cs j rest, item cs = some (j, rest) → P j)
    {acc js : List Json} (before : ∀ j ∈ acc, P j)
    (read : items item n first acc cs = some (js, rest)) : ∀ j ∈ js, P j := by
  induction n generalizing first acc cs with
  | zero => exact nomatch read
  | succ n ih =>
    rw [items] at read
    split at read
    · split at read
      · obtain ⟨rfl, -⟩ := Prod.mk.inj (Option.some.inj read)
        exact List.forall_mem_nil _
      · exact nomatch read
    · split at read
      · exact nomatch read
      · next j behind one =>
        have now : ∀ i ∈ j :: acc, P i :=
          List.forall_mem_cons.mpr ⟨sound _ _ _ one, before⟩
        split at read
        · exact ih now read
        · obtain ⟨rfl, -⟩ := Prod.mk.inj (Option.some.inj read)
          exact fun i mem => now i (List.mem_reverse.mp mem)
        · exact nomatch read

theorem fields_all (sound : ∀ cs j rest, item cs = some (j, rest) → P j)
    {acc fs : List (String × Json)} (before : ∀ f ∈ acc, P f.2)
    (read : fields item n first acc cs = some (fs, rest)) : ∀ f ∈ fs, P f.2 := by
  induction n generalizing first acc cs with
  | zero => exact nomatch read
  | succ n ih =>
    rw [fields] at read
    split at read
    · split at read
      · obtain ⟨rfl, -⟩ := Prod.mk.inj (Option.some.inj read)
        exact List.forall_mem_nil _
      · exact nomatch read
    · split at read
      · exact nomatch read
      · next key _ _ =>
        split at read
        · split at read
          · exact nomatch read
          · next j behind one =>
            have now : ∀ f ∈ (key, j) :: acc, P f.2 :=
              List.forall_mem_cons.mpr ⟨sound _ _ _ one, before⟩
            split at read
            · exact ih now read
            · obtain ⟨rfl, -⟩ := Prod.mk.inj (Option.some.inj read)
              exact fun f mem => now f (List.mem_reverse.mp mem)
            · exact nomatch read
        · exact nomatch read
    · exact nomatch read

end Read

theorem value_fits {n : Nat} : ∀ {depth : Nat} {cs rest : List Char} {j : Json},
    value n depth cs = some (j, rest) → j.Fits depth := by
  intro depth
  induction depth with
  | zero => exact fun read => nomatch read
  | succ depth ih =>
    intro cs rest j read
    rw [value] at read
    split at read
    case h_5 =>
      split at read
      · exact nomatch read
      · next deep =>
        obtain ⟨⟨js, r⟩, inside, same⟩ := Option.map_eq_some_iff.mp read
        obtain ⟨rfl, -⟩ := Prod.mk.inj same
        simp only [Fits, Nat.add_sub_cancel, itemsFit_iff]
        exact ⟨by omega, items_all (fun _ _ _ => ih) (List.forall_mem_nil _) inside⟩
    case h_6 =>
      split at read
      · exact nomatch read
      · next deep =>
        obtain ⟨⟨fs, r⟩, inside, same⟩ := Option.map_eq_some_iff.mp read
        obtain ⟨rfl, -⟩ := Prod.mk.inj same
        obtain ⟨keys, among⟩ := entriesOf_spec fs
        have fit := fields_all (P := Fits depth) (fun _ _ _ => ih) (List.forall_mem_nil _) inside
        simp only [Fits, Nat.add_sub_cancel, fieldsFit_iff]
        exact ⟨by omega, keys, fun f mem => fit f (among f mem)⟩
    -- The other documents hold no documents.
    all_goals
      obtain ⟨⟨_, r⟩, -, same⟩ := Option.map_eq_some_iff.mp read
      obtain ⟨rfl, -⟩ := Prod.mk.inj same
      simp only [Fits]
      exact Nat.succ_pos depth

theorem fits_of_read? {text : String} {j : Json} (read : read? text = some j) :
    j.Fits (maxDepth + 1) := by
  rw [read?, readChars?] at read
  split at read
  · next whole =>
    split at read
    · obtain rfl := Option.some.inj read
      exact value_fits whole
    · exact nomatch read
  · exact nomatch read

end Json

end DocPath
