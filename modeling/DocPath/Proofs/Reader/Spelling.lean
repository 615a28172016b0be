import DocPath.Proofs.Reader.Lookahead

/-!
The spellings of text between quotes. A character is spelled as it is or as an escape that denotes
it. A quoted text is read as what it spells, up to its closing quote; where neither the quote nor a
spelling follows, the reading ends.
-/

namespace DocPath.Reader

def HexDigit (c : Char) (v : Nat) : Prop :=
  "0123456789abcdef".toList[v]? = some c ∨ "0123456789ABCDEF".toList[v]? = some c

inductive Denotes (q : Quote) : Char → Char → Prop where
  | backspace : Denotes q 'b' '\x08'
  | tab : Denotes q 't' '\t'
  | newline : Denotes q 'n' '\n'
  | formFeed : Denotes q 'f' '\x0c'
  | carriageReturn : Denotes q 'r' '\r'
  | slash : Denotes q '/' '/'
  | backslash : Denotes q '\\' '\\'
  | dollar : Denotes q '$' '$'
  | quote : Denotes q q.char q.char

/-- The spellings of a character between quotes. -/
inductive Spelling (q : Quote) : List Char → Char → Prop where
  | plain {a : Char} (other : a ≠ q.char) (unescaped : a ≠ '\\') : Spelling q [a] a
  | escape {x a : Char} (denotes : Denotes q x a) : Spelling q ['\\', x] a
  /-- The code point of the character in four digits. -/
  | code {c₃ c₂ c₁ c₀ a : Char} {v₃ v₂ v₁ v₀ : Nat} (third : HexDigit c₃ v₃)
      (second : HexDigit c₂ v₂) (first : HexDigit c₁ v₁) (zeroth : HexDigit c₀ v₀)
      (point : a.toNat = v₃ * 16 ^ 3 + v₂ * 16 ^ 2 + v₁ * 16 + v₀) :
      Spelling q ['\\', 'u', c₃, c₂, c₁, c₀] a

/-- The spellings of a text, character by character. -/
inductive Spells (q : Quote) : List Char → List Char → Prop where
  | nil : Spells q [] []
  | cons {c t as : List Char} {a : Char} (first : Spelling q c a) (rest : Spells q t as) :
      Spells q (c ++ t) (a :: as)

def digitOf (c : Char) : Nat :=
  if isDigit c then c.toNat - 48 else if 97 ≤ c.toNat then c.toNat - 87 else c.toNat - 55

instance (c : Char) (v : Nat) : Decidable (HexDigit c v) := by
  unfold HexDigit
  infer_instance

theorem HexDigit.valued {c : Char} {v : Nat} (h : HexDigit c v) :
    isHexDigit c = true ∧ digitOf c = v := by
  have table : ∀ i < 16, ∀ digits ∈ ["0123456789abcdef".toList, "0123456789ABCDEF".toList],
      (digits[i]?.all fun d => isHexDigit d && digitOf d == i) = true := by decide
  have length : ∀ digits ∈ ["0123456789abcdef".toList, "0123456789ABCDEF".toList],
      digits.length = 16 := by decide
  have one (digits : List Char)
      (mem : digits ∈ ["0123456789abcdef".toList, "0123456789ABCDEF".toList])
      (found : digits[v]? = some c) : isHexDigit c = true ∧ digitOf c = v := by
    obtain ⟨low, -⟩ := List.getElem?_eq_some_iff.mp found
    have row := table v (by rw [← length digits mem]; exact low) digits mem
    rw [found] at row
    simpa using row
  rcases h with found | found
  · exact one _ (by simp) found
  · exact one _ (by simp) found

theorem hexDigit_digitOf {c : Char} (h : isHexDigit c) : HexDigit c (digitOf c) := by
  have table : ∀ n < 103, isHexDigit (Char.ofNat n) = true →
      HexDigit (Char.ofNat n) (digitOf (Char.ofNat n)) := by decide
  have low : c.toNat < 103 := by
    simp only [isHexDigit, isDigit, Bool.or_eq_true, Bool.and_eq_true, decide_eq_true_eq] at h
    omega
  have row := table c.toNat low
  rw [Char.ofNat_toNat] at row
  exact row h

theorem hexNumber_four (c₃ c₂ c₁ c₀ : Char) : hexNumber [c₃, c₂, c₁, c₀] =
    digitOf c₃ * 16 ^ 3 + digitOf c₂ * 16 ^ 2 + digitOf c₁ * 16 + digitOf c₀ := by
  have step (n : Nat) (c : Char) : 16 * n + (if isDigit c then c.toNat - 48
      else if 97 ≤ c.toNat then c.toNat - 87 else c.toNat - 55) = 16 * n + digitOf c := rfl
  simp only [hexNumber, List.foldl_cons, List.foldl_nil, step]
  omega

theorem scalar?_iff {n : Nat} {a : Char} : scalar? n = some a ↔ a.toNat = n := by
  by_cases valid : n.isValidChar
  · have found : scalar? n = some (Char.ofNatAux n valid) := dif_pos valid
    have value : (Char.ofNatAux n valid).toNat = n := rfl
    rw [found, Option.some_inj, ← Char.toNat_inj, value, eq_comm]
  · have missing : scalar? n = none := dif_neg valid
    rw [missing]
    constructor
    · intro none
      cases none
    · rintro rfl
      exact absurd a.valid valid

theorem escapeOf?_iff {q : Quote} {x a : Char} : escapeOf? q x = some a ↔ Denotes q x a := by
  constructor
  · intro found
    unfold escapeOf? at found
    repeat' split at found
    all_goals cases found
    all_goals subst_vars; constructor
  · intro denotes
    cases denotes <;> cases q <;> rfl

theorem simpleEscape_done {q : Quote} {x a : Char} (h : Denotes q x a) (r : List Char) :
    simpleEscape q (x :: r) = .done a r := by
  simp only [simpleEscape, escapeOf?_iff.mpr h]

theorem simpleEscape_misses_code (q : Quote) (s : List Char) :
    Misses (simpleEscape q) ('u' :: s) := by
  have letter : escapeOf? q 'u' = none := by cases q <;> rfl
  exact ⟨_, by simp only [simpleEscape, letter]; rfl⟩

theorem fourHex_done {c₃ c₂ c₁ c₀ : Char} {v₃ v₂ v₁ v₀ : Nat} (third : HexDigit c₃ v₃)
    (second : HexDigit c₂ v₂) (first : HexDigit c₁ v₁) (zeroth : HexDigit c₀ v₀)
    (r : List Char) : fourHex (c₃ :: c₂ :: c₁ :: c₀ :: r) = .done [c₃, c₂, c₁, c₀] r := by
  simp only [fourHex, third.valued.1, second.valued.1, first.valued.1, zeroth.valued.1,
    Bool.and_self, if_true]

theorem fourHex_four : Takes fourHex fun c ds => c = ds ∧ ∃ c₃ c₂ c₁ c₀,
    ds = [c₃, c₂, c₁, c₀] ∧ isHexDigit c₃ ∧ isHexDigit c₂ ∧ isHexDigit c₁ ∧ isHexDigit c₀ := by
  intro s ds r read
  unfold fourHex at read
  split at read
  · next a b c d rest =>
    split at read
    · next digits =>
      cases read
      simp only [Bool.and_eq_true] at digits
      exact ⟨[a, b, c, d], rfl, rfl, a, b, c, d, rfl, digits.1.1.1, digits.1.1.2, digits.1.2,
        digits.2⟩
    · cases read
  · cases read

theorem unicodeSequence_spelling (q : Quote) :
    Takes unicodeSequence fun c a => Spelling q ('\\' :: c) a := by
  refine Takes.within _ (((Takes.char 'u').bind fun _ => fourHex_four.check).mono ?_)
  rintro c a ⟨letter, ds, x, rfl, ⟨rfl, -⟩, es, ⟨rfl, digits⟩, made⟩
  obtain ⟨c₃, c₂, c₁, c₀, rfl, third, second, first, zeroth⟩ := digits
  split at made
  · next b found =>
    cases made
    refine .code (hexDigit_digitOf third) (hexDigit_digitOf second) (hexDigit_digitOf first)
      (hexDigit_digitOf zeroth) ?_
    rw [scalar?_iff.mp found, hexNumber_four]
  · cases made

theorem quotedChar_spelling (q : Quote) : Takes (quotedChar q) (Spelling q) := by
  have escaped : Takes (simpleEscape q <|> unicodeSequence) fun c a =>
      Spelling q ('\\' :: c) a := by
    refine Takes.orElse ((simpleEscape_takes q).mono ?_) (unicodeSequence_spelling q)
    rintro c a ⟨x, rfl, found⟩
    exact .escape (escapeOf?_iff.mp found)
  refine Takes.orElse ((Takes.satisfy _).mono ?_) (Takes.within _ ?_)
  · rintro c a ⟨rfl, plain⟩
    simp only [Bool.and_eq_true, decide_eq_true_eq] at plain
    exact .plain plain.1 plain.2
  · refine ((Takes.char '\\').bind fun _ => escaped).mono ?_
    rintro c a ⟨c₁, c₂, x, rfl, ⟨rfl, -⟩, spelled⟩
    exact spelled

theorem quotedChar_spelled {q : Quote} {c : List Char} {a : Char} (h : Spelling q c a)
    (r : List Char) : quotedChar q (c ++ r) = .done a r := by
  have slash (t : List Char) : Misses (plainChar q) ('\\' :: t) :=
    satisfy_misses (.cons (by simp) t)
  have escaped {t : List Char} (read : (simpleEscape q <|> unicodeSequence) t = .done a r) :
      quotedChar q ('\\' :: t) = .done a r := by
    unfold quotedChar escapedChar
    rw [orElse_next (slash t)]
    exact within_done _ ((bind_done (char_cons _ _)).trans read)
  cases h with
  | plain other unescaped =>
    exact orElse_done (satisfy_done (by simp [other, unescaped]) r)
  | escape denotes => exact escaped (orElse_done (simpleEscape_done denotes r))
  | @code c₃ c₂ c₁ c₀ _ v₃ v₂ v₁ v₀ third second first zeroth point =>
    have number : hexNumber [c₃, c₂, c₁, c₀] = a.toNat := by
      rw [hexNumber_four, third.valued.2, second.valued.2, first.valued.2, zeroth.valued.2, point]
    refine escaped ((orElse_next (simpleEscape_misses_code q _)).trans ?_)
    refine within_done _ ((bind_done (char_cons _ _)).trans ?_)
    refine check_done (fourHex_done third second first zeroth r) ?_
    rw [scalar?_iff.mpr number.symm]

theorem quotedChar_mild (q : Quote) : Mild (quotedChar q) := by
  have simple : Mild (simpleEscape q) := by
    intro s e read
    unfold simpleEscape at read
    split at read
    · split at read <;> cases read
    · cases read
  have four : Mild fourHex := by
    intro s e read
    unfold fourHex at read
    split at read
    · split at read <;> cases read
    · cases read
  have code : Mild unicodeSequence := .within _ ((Mild.satisfy _).bind fun _ => four.check _)
  exact (Mild.satisfy _).orElse (((Mild.satisfy _).bind fun _ => simple.orElse code).within _)

/-- No character is spelled at the front of a text. -/
def Unspelled (q : Quote) (s : List Char) : Prop := ∀ c a, Spelling q c a → ¬ c <+: s

theorem quotedChar_misses {q : Quote} {s : List Char} :
    Misses (quotedChar q) s ↔ Unspelled q s := by
  constructor
  · rintro ⟨e, missed⟩ c a spelled ⟨r, rfl⟩
    rw [quotedChar_spelled spelled r] at missed
    cases missed
  · intro none
    rcases (quotedChar_mild q).done_or_misses s with ⟨a, r, read⟩ | missed
    · obtain ⟨c, rfl, spelled⟩ := quotedChar_spelling q _ _ _ read
      exact absurd ⟨r, rfl⟩ (none c a spelled)
    · exact missed

theorem Spelling.ne_nil {q : Quote} {c : List Char} {a : Char} (h : Spelling q c a) : c ≠ [] := by
  cases h <;> simp

theorem many_spelled {q : Quote} {t as r : List Char} (h : Spells q t as) (stop : Unspelled q r)
    {n : Nat} (enough : t.length ≤ n) : many (quotedChar q) n (t ++ r) = .done as r := by
  induction h generalizing n with
  | nil => exact many_none (quotedChar_misses.mpr stop) n
  | @cons c t as a first rest ih =>
    have some := List.length_pos_iff.mpr first.ne_nil
    rw [List.length_append] at enough
    obtain ⟨m, rfl⟩ : ∃ m, n = m + 1 := ⟨n - 1, by omega⟩
    rw [List.append_assoc]
    exact many_cons (quotedChar_spelled first _) (ih (by omega))

theorem exists_spelled (q : Quote) (s : List Char) :
    ∃ t as r, s = t ++ r ∧ Spells q t as ∧ Unspelled q r := by
  induction length : s.length using Nat.strongRecOn generalizing s with
  | ind n ih =>
    rcases (quotedChar_mild q).done_or_misses s with ⟨a, u, read⟩ | missed
    · obtain ⟨c, rfl, spelled⟩ := quotedChar_spelling q _ _ _ read
      have some := List.length_pos_iff.mpr spelled.ne_nil
      rw [List.length_append] at length
      obtain ⟨t, as, r, rfl, more, stop⟩ := ih u.length (by omega) u rfl
      exact ⟨c ++ t, a :: as, r, (List.append_assoc c t r).symm, .cons spelled more, stop⟩
    · exact ⟨[], [], s, rfl, .nil, quotedChar_misses.mp missed⟩

theorem unspelled_quote (q : Quote) (r : List Char) : Unspelled q (q.char :: r) := by
  rintro c a spelled ⟨u, text⟩
  cases spelled with
  | plain other => exact other (List.cons.inj text).1
  | escape => cases q <;> cases text
  | code => cases q <;> cases text

theorem stringLiteral_quote (q : Quote) (s : List Char) : stringLiteral (q.char :: s) =
    within .stringLiteral (quotedUpTo q (s.length + 1)) (q.char :: s) := by
  cases q with
  | double => rfl
  | single =>
    have sure : ¬ Misses (quotedWith .single) (Quote.single.char :: s) := by
      intro missed
      rcases misses_of_bind (p := char Quote.single.char) missed with
        ⟨e, first⟩ | ⟨a, t, -, second⟩
      · cases first
      · exact ((Sure.many _ _).bind fun _ => (Sure.commitWith _ _).bind fun _ => .pure _) t second
    have first : (quotedWith .single <|> quotedWith .double) (Quote.single.char :: s) =
        quotedUpTo .single (s.length + 1) (Quote.single.char :: s) := orElse_first sure
    rw [stringLiteral, within, within, first]

theorem stringLiteral_spelled {q : Quote} {t as : List Char} (h : Spells q t as) (r : List Char) :
    stringLiteral (q.char :: (t ++ q.char :: r)) = .done (String.ofList as) r := by
  rw [stringLiteral_quote]
  refine within_done _ ((bind_done (char_cons _ _)).trans ?_)
  refine (bind_done (many_spelled h (unspelled_quote q r) ?_)).trans ?_
  · simp
    omega
  · have close : commitWith .openQuote (char q.char) (q.char :: r) = .done q.char r := by
      simp only [commitWith, char_cons]
    exact bind_done close

theorem stringLiteral_unspelled {q : Quote} {t as r : List Char} (h : Spells q t as)
    (stop : Unspelled q r) (other : r.head? ≠ some q.char) :
    stringLiteral (q.char :: (t ++ r)) = .halt ⟨r, .openQuote, some .stringLiteral⟩ := by
  obtain ⟨e, missed⟩ := char_misses other
  have spelled : many (quotedChar q) ((t ++ r).length + 1) (t ++ r) = .done as r :=
    many_spelled h stop (by simp; omega)
  have inside : quotedUpTo q ((t ++ r).length + 1) (q.char :: (t ++ r)) =
      .halt ⟨r, .openQuote, none⟩ := by
    refine (bind_done (char_cons _ _)).trans ((bind_done spelled).trans ?_)
    rw [bind_apply, commitWith, missed]
  rw [stringLiteral_quote, within, inside]
  rfl

theorem stringLiteral_spelling : Takes stringLiteral fun c v =>
    ∃ (q : Quote) (t : List Char), c = q.char :: (t ++ [q.char]) ∧ Spells q t v.toList :=
  .stringLiteral quotedChar_spelling (fun _ => .nil) fun _ _ _ _ _ first rest => .cons first rest

end DocPath.Reader
